import ProxyGateway.Proofs.Proxy.Record
import ProxyGateway.Proofs.ShareLink.Shadowsocks
import ProxyGateway.Proofs.ShareLink.Vmess

namespace ProxyGateway.ProxyRecord

variable {r : ProxyRecord} {key : String}

theorem tidy_new (kind server : String) (port : UInt16) : (new kind server port).Tidy :=
  ⟨Fields.ordered_nil, nofun⟩

theorem Tidy.named (tidy : r.Tidy) (name : String) : (r.named name).Tidy :=
  ⟨tidy.ordered, tidy.apart⟩

theorem Tidy.set (tidy : r.Tidy) (option : key ∉ fieldNames) (value : Yaml) :
    (r.set key value).Tidy := by
  refine ⟨Fields.ordered_put tidy.ordered key value, fun e member => ?_⟩
  obtain rfl | old := Fields.mem_names_put (List.mem_map_of_mem member)
  · exact option
  · obtain ⟨f, before, same⟩ := List.mem_map.1 old
    exact same ▸ tidy.apart f before

end ProxyGateway.ProxyRecord

namespace ProxyGateway.ShareLink

open ProxyRecord (Tidy tidy_new)

theorem Vmess.tidy_record (c : Content) : c.record.Tidy := by
  refine ⟨ordered_record c, ?_⟩
  simp only [Content.record, List.forall_mem_append, List.forall_mem_cons, forall_mem_optional]
  simp [ProxyRecord.fieldNames]

theorem Shadowsocks.tidy_record (c : Content) : c.record.Tidy := by
  refine ⟨ordered_record c, ?_⟩
  simp only [Content.record, List.forall_mem_append, List.forall_mem_cons, forall_mem_optional]
  simp [ProxyRecord.fieldNames]

/-- Only tidy records are read. -/
structure Neat (x : Except Error ProxyRecord) : Prop where
  tidy : ∀ r, x = .ok r → r.Tidy

theorem neat_throw (e : Error) : Neat (throw e) := ⟨nofun⟩

theorem neat_pure {r : ProxyRecord} (tidy : r.Tidy) : Neat (pure r) := by
  constructor
  rintro _ ⟨⟩
  exact tidy

theorem neat_bind {x : Except Error α} {f : α → Except Error ProxyRecord}
    (all : ∀ a, Neat (f a)) : Neat (x >>= f) := by
  constructor
  intro r done
  obtain ⟨a, _, done⟩ := bind_eq_ok.1 done
  exact (all a).tidy r done

theorem neat_vmess (link : String) : Neat (Vmess.read link) := by
  constructor
  intro r done
  obtain ⟨c, _, rfl⟩ := Vmess.content_of_read done
  exact Vmess.tidy_record c

theorem neat_shadowsocks (link : String) : Neat (Shadowsocks.read link) := by
  constructor
  intro r done
  obtain ⟨c, _, rfl⟩ := Shadowsocks.content_of_read done
  exact Shadowsocks.tidy_record c

-- The other readers are followed along: each way through one of them ends in a failure or in a row
-- of options that are set one after the other.
theorem neat_vless (link : String) : Neat (Vless.read link) := by
  unfold Vless.read
  refine neat_bind fun u => neat_bind fun place => neat_bind fun id => ?_
  dsimp only
  split
  · exact neat_throw _
  · refine neat_bind fun name => ?_
    repeat' split
    all_goals apply_rules [neat_pure, Tidy.set, Tidy.named, tidy_new]
    all_goals decide

theorem neat_trojan (link : String) : Neat (Trojan.read link) := by
  unfold Trojan.read
  refine neat_bind fun u => neat_bind fun place => neat_bind fun password => ?_
  dsimp only
  split
  · exact neat_throw _
  · refine neat_bind fun name => ?_
    repeat' split
    all_goals apply_rules [neat_pure, Tidy.set, Tidy.named, tidy_new]
    all_goals decide

theorem tidy_foldl {f : ProxyRecord → α → ProxyRecord} (step : ∀ r a, r.Tidy → (f r a).Tidy)
    (as : List α) {r : ProxyRecord} (tidy : r.Tidy) : (as.foldl f r).Tidy := by
  induction as generalizing r with
  | nil => exact tidy
  | cons a as ih => exact ih (step r a tidy)

theorem tidy_addParameter {r : ProxyRecord} (tidy : r.Tidy) (key value : String) :
    (ShadowsocksR.addParameter r key value).Tidy := by
  unfold ShadowsocksR.addParameter
  split
  · exact tidy.named _
  · exact tidy.set (by decide) _
  · exact tidy.set (by decide) _
  · exact tidy

theorem neat_shadowsocksR (link : String) : Neat (ShadowsocksR.read link) := by
  unfold ShadowsocksR.read
  split
  · dsimp only
    split
    · split
      · split
        · refine neat_pure (tidy_foldl (fun r e tidy => tidy_addParameter tidy _ _) _ ?_)
          apply_rules [Tidy.set, tidy_new]
          all_goals decide
        · exact neat_throw _
      · exact neat_throw _
    · exact neat_throw _
  · exact neat_throw _

theorem neat_addCredentials (u : Url) {r : ProxyRecord} (tidy : r.Tidy) :
    Neat (addCredentials u r) := by
  have user (name : String) :
      (if name = "" then r else r.setText "username" name).Tidy := by
    split
    · exact tidy
    · exact tidy.set (by decide) _
  unfold addCredentials
  refine neat_bind fun name => ?_
  dsimp only
  cases u.password? with
  | some secret =>
    refine neat_bind fun password => ?_
    exact neat_pure ((user name).set (by decide) _)
  | none => exact neat_pure (user name)

theorem neat_socks (link : String) : Neat (readSocks link) := by
  unfold readSocks
  refine neat_bind fun u => neat_bind fun place => neat_bind fun name => ?_
  exact neat_addCredentials u (((tidy_new _ _ _).named name).set (by decide) _)

theorem neat_http (link : String) : Neat (readHttp link) := by
  unfold readHttp
  refine neat_bind fun u => neat_bind fun place => neat_bind fun name => ?_
  exact neat_addCredentials u (((tidy_new _ _ _).named name).set (by decide) _)

/-- Whatever its kind, a link gives its record no option with the name of a field. -/
theorem tidy_of_read {link : String} {r : ProxyRecord} (done : read link = .ok r) : r.Tidy := by
  suffices neat : Neat (read link) from neat.tidy r done
  unfold read
  dsimp only
  split
  · exact neat_throw _
  · split
    · exact neat_vmess _
    · exact neat_vless _
    · exact neat_trojan _
    · exact neat_shadowsocks _
    · exact neat_shadowsocksR _
    · exact neat_socks _
    · exact neat_socks _
    · exact neat_http _
    · exact neat_http _
    · exact neat_throw _

end ProxyGateway.ShareLink
