import ProxyGateway.Proofs.Pool.Choice

namespace ProxyGateway

namespace Double

def magnitude (d : Double) : Nat := d.bits.toNat % 9223372036854775808

/-- The total order of the bit patterns: those with a sign come first and fall as their bits rise,
the others rise with them. -/
def TotalLe (x y : Double) : Prop :=
  match x.negative, y.negative with
  | true, true => y.magnitude ≤ x.magnitude
  | true, false => True
  | false, true => False
  | false, false => x.magnitude ≤ y.magnitude

instance (x y : Double) : Decidable (x.TotalLe y) := by
  unfold TotalLe
  split <;> infer_instance

theorem negative_iff (d : Double) : d.negative = true ↔ 9223372036854775808 ≤ d.bits.toNat := by
  have size := d.bits.toNat_lt
  rw [negative, beq_iff_eq, ← UInt64.toNat_inj, UInt64.toNat_shiftRight, Nat.shiftRight_eq_div_pow]
  change d.bits.toNat / 2 ^ 63 = 1 ↔ _
  omega

theorem rank_of_negative {d : Double} (sign : d.negative = true) : d.rank = -d.magnitude - 1 := by
  have low := d.negative_iff.1 sign
  have high := d.bits.toNat_lt
  rw [rank, if_pos sign, magnitude]
  omega

theorem rank_of_not_negative {d : Double} (sign : d.negative = false) : d.rank = d.magnitude := by
  have low : ¬ 9223372036854775808 ≤ d.bits.toNat := by
    rw [← negative_iff, sign]
    exact Bool.false_ne_true
  rw [rank, if_neg (by rw [sign]; exact Bool.false_ne_true), magnitude]
  omega

theorem rank_le_iff (x y : Double) : x.rank ≤ y.rank ↔ x.TotalLe y := by
  unfold TotalLe
  split
  case h_1 x_sign y_sign =>
    rw [rank_of_negative x_sign, rank_of_negative y_sign]
    omega
  case h_2 x_sign y_sign =>
    rw [rank_of_negative x_sign, rank_of_not_negative y_sign]
    simp only [iff_true]
    omega
  case h_3 x_sign y_sign =>
    rw [rank_of_not_negative x_sign, rank_of_negative y_sign]
    simp only [iff_false]
    omega
  case h_4 x_sign y_sign =>
    rw [rank_of_not_negative x_sign, rank_of_not_negative y_sign]
    omega

/-- From the negative patterns that are no number up to the positive ones; the two zeros differ. -/
example : ([nan.negate, infinity.negate, (ofNat 1).negate, zero.negate, zero, ofNat 1, infinity,
    nan].Pairwise fun x y => x.TotalLe y ∧ ¬ y.TotalLe x) := by decide

theorem rank_inj {x y : Double} (same : x.rank = y.rank) : x = y := by
  have x_size := x.bits.toNat_lt
  have y_size := y.bits.toNat_lt
  have bits : x.bits.toNat = y.bits.toNat := by
    unfold rank at same
    split at same <;> split at same
    case isTrue.isFalse x_sign y_sign =>
      rw [negative_iff] at x_sign y_sign
      omega
    case isFalse.isTrue x_sign y_sign =>
      rw [negative_iff] at x_sign y_sign
      omega
    all_goals omega
  cases x
  cases y
  exact congrArg mk (UInt64.toNat_inj.1 bits)

end Double

namespace Node

def merit (n : Node) : UInt16 × Double := (n.adapter.delay, n.adapter.speed)

def Leads (m n : Node) : Prop :=
  m.adapter.delay < n.adapter.delay ∨
    (m.adapter.delay = n.adapter.delay ∧ n.adapter.speed.TotalLe m.adapter.speed)

theorem before_iff_leads {m n : Node} : m.before n = true ↔ m.Leads n := by
  rw [before_iff, Double.rank_le_iff, Leads]

/-- Two nodes lead each other only where their bits are the same. -/
theorem merit_eq_of_leads {m n : Node} (front : m.Leads n) (back : n.Leads m) :
    m.merit = n.merit := by
  rw [← before_iff_leads, before_iff, UInt16.lt_iff_toNat_lt, ← UInt16.toNat_inj] at front back
  have delays : m.adapter.delay = n.adapter.delay := UInt16.toNat_inj.1 (by omega)
  have speeds : m.adapter.speed = n.adapter.speed := Double.rank_inj (by omega)
  exact Prod.ext delays speeds

theorem leads_of_merit_eq {m n : Node} (same : m.merit = n.merit) : m.Leads n := by
  obtain ⟨delays, speeds⟩ := Prod.mk.inj same
  have ranks : n.adapter.speed.rank ≤ m.adapter.speed.rank :=
    Int.le_of_eq (congrArg Double.rank speeds.symm)
  exact .inr ⟨delays, (Double.rank_le_iff _ _).1 ranks⟩

end Node

namespace Pool

/-- The nodes of a merit, in the order in which they stand. -/
def ofMerit (merit : UInt16 × Double) (nodes : List Node) : List Node :=
  nodes.filter (·.merit = merit)

/-- The same nodes by rank, with equals in their old order. -/
structure StableRanking (old new : List Node) : Prop where
  perm : new.Perm old
  ordered : new.Pairwise Node.Leads
  stable : ∀ merit, ofMerit merit new = ofMerit merit old

theorem mem_ofMerit {n : Node} {nodes : List Node} : n ∈ ofMerit n.merit nodes ↔ n ∈ nodes := by
  simp [ofMerit]

theorem mem_iff_of_ofMerit {l m : List Node} (same : ∀ merit, ofMerit merit l = ofMerit merit m)
    (n : Node) : n ∈ l ↔ n ∈ m := by
  rw [← mem_ofMerit, same, mem_ofMerit]

/-- Nodes in order are put together again from the nodes of each merit. -/
theorem eq_of_ordered {l m : List Node} (l_ordered : l.Pairwise Node.Leads)
    (m_ordered : m.Pairwise Node.Leads) (same : ∀ merit, ofMerit merit l = ofMerit merit m) :
    l = m := by
  induction l generalizing m with
  | nil =>
    cases m with
    | nil => rfl
    | cons y m => exact absurd ((mem_iff_of_ofMerit same y).2 List.mem_cons_self) List.not_mem_nil
  | cons x l ih =>
    cases m with
    | nil => exact absurd ((mem_iff_of_ofMerit same x).1 List.mem_cons_self) List.not_mem_nil
    | cons y m =>
      rw [List.pairwise_cons] at l_ordered m_ordered
      have heads : x.merit = y.merit := by
        rcases List.mem_cons.1 ((mem_iff_of_ofMerit same x).1 List.mem_cons_self) with equal | late
        · rw [equal]
        rcases List.mem_cons.1 ((mem_iff_of_ofMerit same y).2 List.mem_cons_self) with equal | late'
        · rw [equal]
        exact Node.merit_eq_of_leads (l_ordered.1 y late') (m_ordered.1 x late)
      have first := same x.merit
      simp only [ofMerit, List.filter_cons, heads, decide_true, if_true] at first
      obtain ⟨rfl, _⟩ := List.cons.inj first
      have rest (merit : UInt16 × Double) : ofMerit merit l = ofMerit merit m := by
        have whole := same merit
        simp only [ofMerit, List.filter_cons] at whole
        split at whole
        · exact (List.cons.inj whole).2
        · exact whole
      rw [ih l_ordered.2 m_ordered.2 rest]

theorem sort_all_ordered (p : Pool) : p.sort.all.Pairwise Node.Leads := by
  have ranked := List.pairwise_mergeSort Node.before_trans Node.before_total p.all
  exact ranked.imp Node.before_iff_leads.1

theorem ofMerit_sort (p : Pool) (merit : UInt16 × Double) :
    ofMerit merit p.sort.all = ofMerit merit p.all := by
  have equals : (ofMerit merit p.all).Pairwise fun m n => m.before n = true := by
    apply List.pairwise_of_forall_mem_list
    intro m m_member n n_member
    have m_merit : m.merit = merit := of_decide_eq_true (List.mem_filter.1 m_member).2
    have n_merit : n.merit = merit := of_decide_eq_true (List.mem_filter.1 n_member).2
    exact Node.before_iff_leads.2 (Node.leads_of_merit_eq (m_merit.trans n_merit.symm))
  have kept : (ofMerit merit p.all).Sublist p.sort.all :=
    List.sublist_mergeSort Node.before_trans Node.before_total equals List.filter_sublist
  have inside : (ofMerit merit p.all).Sublist (ofMerit merit p.sort.all) := by
    simpa [ofMerit] using kept.filter (·.merit = merit)
  exact (inside.eq_of_length ((p.sort_all_perm.filter _).length_eq).symm).symm

theorem sort_stable (p : Pool) : StableRanking p.all p.sort.all :=
  ⟨p.sort_all_perm, p.sort_all_ordered, p.ofMerit_sort⟩

/-- The ranking is the stable one and the only one of that kind, the view shows the nodes of it
that are alive, and a second ranking changes nothing. -/
theorem sort_is_stable_ranking (p : Pool) :
    (∀ nodes, StableRanking p.all nodes ↔ nodes = p.sort.all) ∧
      p.sort.alive = (p.sort.all.filter (·.adapter.alive)).map (·.number) ∧
      p.sort.sort = p.sort := by
  refine ⟨fun nodes => ⟨fun ranking => ?_, fun same => same ▸ p.sort_stable⟩, rfl, ?_⟩
  · apply eq_of_ordered ranking.ordered p.sort_all_ordered
    intro merit
    rw [ranking.stable, p.ofMerit_sort]
  · have again : p.sort.sort.all = p.sort.all :=
      List.mergeSort_of_pairwise (p.sort_all_ordered.imp Node.before_iff_leads.2)
    change renewAlive ⟨p.sort.sort.all, p.sort.alive, p.next⟩ = p.sort
    rw [again]
    rfl

end Pool

end ProxyGateway
