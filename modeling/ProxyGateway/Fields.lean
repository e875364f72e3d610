namespace ProxyGateway

abbrev Fields (α : Type) := List (String × α)

namespace Fields

def get? (fs : Fields α) (name : String) : Option α := (fs.find? (·.1 == name)).map (·.2)

/-- Puts a value into its place in the order of names, over what stood under its name. -/
def put (name : String) (value : α) : Fields α → Fields α
  | [] => [(name, value)]
  | (k, v) :: rest =>
    if name = k then (name, value) :: rest
    else if name < k then (name, value) :: (k, v) :: rest
    else (k, v) :: put name value rest

/-- The fields without the one of a name. -/
def erase (fs : Fields α) (name : String) : Fields α := fs.filter (·.1 != name)

/-- The last value of a name stays. -/
def ofList (entries : List (String × α)) : Fields α :=
  entries.foldl (fun fs (k, v) => put k v fs) []

theorem get?_cons (k name : String) (v : α) (fs : Fields α) :
    get? ((k, v) :: fs) name = if k = name then some v else get? fs name := by
  by_cases h : k = name <;> simp [get?, h]

theorem get?_put (fs : Fields α) (k name : String) (v : α) :
    (put k v fs).get? name = if k = name then some v else fs.get? name := by
  induction fs with
  | nil => simp [put, get?_cons]
  | cons e rest ih =>
    obtain ⟨l, w⟩ := e
    by_cases hk : k = l
    · subst hk
      by_cases hn : k = name <;> simp [put, get?_cons, hn]
    · by_cases hlt : k < l
      · simp [put, hk, hlt, get?_cons]
      · by_cases hl : l = name
        · subst hl
          simp [put, hk, hlt, get?_cons]
        · simp [put, hk, hlt, get?_cons, hl, ih]

def Ordered (fs : Fields α) : Prop := (fs.map (·.1)).Pairwise (· < ·)

theorem ordered_nil : Ordered ([] : Fields α) := List.Pairwise.nil

theorem mem_names_put {fs : Fields α} {k l : String} {v : α}
    (h : l ∈ (put k v fs).map (·.1)) : l = k ∨ l ∈ fs.map (·.1) := by
  induction fs with
  | nil => simpa [put] using h
  | cons e rest ih =>
    obtain ⟨m, w⟩ := e
    by_cases hk : k = m
    · simp [put, hk] at h
      simp [hk, h]
    · by_cases hlt : k < m
      · simpa [put, hk, hlt] using h
      · simp only [put, hk, hlt, if_false, List.map_cons, List.mem_cons] at h ⊢
        rcases h with h | h
        · exact .inr (.inl h)
        · rcases ih h with h | h
          · exact .inl h
          · exact .inr (.inr h)

theorem ordered_put {fs : Fields α} (h : fs.Ordered) (k : String) (v : α) :
    Ordered (put k v fs) := by
  induction fs with
  | nil => simp [Ordered, put]
  | cons e rest ih =>
    obtain ⟨m, w⟩ := e
    unfold Ordered at h ih ⊢
    rw [List.map_cons, List.pairwise_cons] at h
    by_cases hk : k = m
    · subst hk
      simpa [put] using h
    · by_cases hlt : k < m
      · simp only [put, hk, hlt, if_false, if_true, List.map_cons, List.pairwise_cons]
        refine ⟨fun l hl => ?_, h⟩
        rcases List.mem_cons.1 hl with rfl | hl
        · exact hlt
        · exact String.lt_trans hlt (h.1 l hl)
      · simp only [put, hk, hlt, if_false, List.map_cons, List.pairwise_cons]
        refine ⟨fun l hl => ?_, ih h.2⟩
        rcases mem_names_put hl with rfl | hl
        · exact String.not_le.1 fun hle => hk (String.le_antisymm hle (String.not_lt.1 hlt))
        · exact h.1 l hl

theorem ordered_ofList (entries : List (String × α)) : Ordered (ofList entries) := by
  have step : ∀ (rest : List (String × α)) (start : Fields α), start.Ordered →
      Ordered (rest.foldl (fun fs (k, v) => put k v fs) start) := by
    intro rest
    induction rest with
    | nil => exact fun _ h => h
    | cons e rest ih => exact fun start h => ih _ (ordered_put h e.1 e.2)
  exact step entries [] ordered_nil

end Fields

end ProxyGateway
