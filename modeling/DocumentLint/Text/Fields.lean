/-! # Separated fields

Cutting a list at every occurrence of a separator gives at least one field,
none of which holds the separator. Writing the separator between the fields
gives the list back.
-/

namespace DocumentLint.Text

def fields {α : Type} [DecidableEq α] (sep : α) : List α → List (List α)
  | [] => [[]]
  | c :: cs =>
    if c = sep then [] :: fields sep cs
    else match fields sep cs with
      | [] => [[c]]
      | f :: fs => (c :: f) :: fs

def joinFields {α : Type} (sep : α) : List (List α) → List α
  | [] => []
  | [f] => f
  | f :: g :: fs => f ++ sep :: joinFields sep (g :: fs)

variable {α : Type} [DecidableEq α]

theorem fields_ne_nil (sep : α) (cs : List α) : fields sep cs ≠ [] := by
  cases cs with
  | nil => simp [fields]
  | cons c cs =>
    rw [fields]
    split
    · simp
    · split <;> simp

omit [DecidableEq α] in
theorem joinFields_cons_of_ne_nil (sep : α) (f : List α) {fs : List (List α)}
    (h : fs ≠ []) : joinFields sep (f :: fs) = f ++ sep :: joinFields sep fs := by
  cases fs with
  | nil => exact absurd rfl h
  | cons g fs => rfl

theorem joinFields_fields (sep : α) (cs : List α) : joinFields sep (fields sep cs) = cs := by
  induction cs with
  | nil => rfl
  | cons c cs ih =>
    rw [fields]
    split
    · next h => rw [joinFields_cons_of_ne_nil sep [] (fields_ne_nil sep cs), ih, h]; rfl
    · split
      · next h => exact absurd h (fields_ne_nil sep cs)
      · next f fs h =>
        rw [h] at ih
        cases fs with
        | nil => simp_all [joinFields]
        | cons g fs => simp_all [joinFields]

theorem not_mem_of_mem_fields {sep : α} {cs f : List α} (h : f ∈ fields sep cs) :
    sep ∉ f := by
  induction cs generalizing f with
  | nil => simp_all [fields]
  | cons c cs ih =>
    rw [fields] at h
    split at h
    · rcases List.mem_cons.1 h with rfl | h
      · simp
      · exact ih h
    · next hc =>
      split at h
      · next hn => exact absurd hn (fields_ne_nil sep cs)
      · next g gs hg =>
        rcases List.mem_cons.1 h with rfl | h
        · have := ih (f := g) (by simp [hg])
          simp [this, Ne.symm hc]
        · exact ih (by simp [hg, h])

theorem fields_of_not_mem {sep : α} {cs : List α} (h : sep ∉ cs) : fields sep cs = [cs] := by
  induction cs with
  | nil => rfl
  | cons c cs ih =>
    rw [List.mem_cons, not_or] at h
    rw [fields, if_neg (Ne.symm h.1), ih h.2]

theorem fields_append (sep : α) (a b : List α) :
    fields sep (a ++ sep :: b) = fields sep a ++ fields sep b := by
  induction a with
  | nil => simp [fields]
  | cons c cs ih =>
    rw [List.cons_append, fields, fields, ih]
    by_cases hc : c = sep
    · simp [hc]
    · rw [if_neg hc, if_neg hc]
      cases hf : fields sep cs with
      | nil => exact absurd hf (fields_ne_nil sep cs)
      | cons f fs => rfl

section Writing

variable {β : Type} [DecidableEq β] {sep : α} {sep' : β} {f : α → List β}

theorem fields_append_of_not_mem {a : List α} (h : sep ∉ a) (b : List α) :
    fields sep (a ++ b) = (fields sep b).modifyHead (a ++ ·) := by
  induction a with
  | nil =>
    rw [List.nil_append]
    cases fields sep b <;> rfl
  | cons c cs ih =>
    rw [List.mem_cons, not_or] at h
    rw [List.cons_append, fields, if_neg (Ne.symm h.1), ih h.2]
    cases hf : fields sep b with
    | nil => exact absurd hf (fields_ne_nil sep b)
    | cons g gs => rfl

theorem fields_flatMap (hsep : f sep = [sep']) (hf : ∀ c, c ≠ sep → sep' ∉ f c) (cs : List α) :
    fields sep' (cs.flatMap f) = (fields sep cs).map (·.flatMap f) := by
  induction cs with
  | nil => rfl
  | cons c cs ih =>
    rw [List.flatMap_cons]
    by_cases hc : c = sep
    · rw [hc, hsep, List.singleton_append, fields, fields, if_pos rfl, if_pos rfl, ih]
      rfl
    · rw [fields_append_of_not_mem (hf c hc), ih, fields, if_neg hc]
      cases hfs : fields sep cs with
      | nil => exact absurd hfs (fields_ne_nil sep cs)
      | cons g gs => rfl

omit [DecidableEq α] [DecidableEq β] in
theorem joinFields_map_flatMap (hsep : f sep = [sep']) (fs : List (List α)) :
    joinFields sep' (fs.map (·.flatMap f)) = (joinFields sep fs).flatMap f := by
  induction fs with
  | nil => rfl
  | cons g gs ih =>
    cases gs with
    | nil => rfl
    | cons k ks =>
      rw [joinFields, List.flatMap_append, List.flatMap_cons, hsep, ← ih]
      rfl

end Writing

/-- What stands before the first separator and what stands after it, if there is one. -/
def splitFirst (sep : α) : List α → Option (List α × List α)
  | [] => none
  | c :: cs => if c = sep then some ([], cs) else (splitFirst sep cs).map fun r => (c :: r.1, r.2)

theorem splitFirst_eq_some_iff {sep : α} {cs a b : List α} :
    splitFirst sep cs = some (a, b) ↔ cs = a ++ sep :: b ∧ sep ∉ a := by
  induction cs generalizing a with
  | nil => simp [splitFirst]
  | cons c cs ih =>
    rw [splitFirst]
    split
    · next h =>
      subst h
      constructor
      · rintro ⟨⟩; simp
      · rintro ⟨h, hm⟩
        cases a with
        | nil => simp_all
        | cons d a => simp_all
    · next h =>
      simp only [Option.map_eq_some_iff, Prod.mk.injEq, Prod.exists]
      constructor
      · rintro ⟨x, y, hxy, rfl, rfl⟩
        obtain ⟨rfl, hm⟩ := ih.1 hxy
        simp [hm, Ne.symm h]
      · rintro ⟨e, hm⟩
        cases a with
        | nil => simp_all
        | cons d a =>
          simp only [List.cons_append, List.cons.injEq] at e
          obtain ⟨rfl, rfl⟩ := e
          exact ⟨a, b, ih.2 ⟨rfl, fun hx => hm (List.mem_cons_of_mem _ hx)⟩, rfl, rfl⟩

theorem splitFirst_eq_none_iff {sep : α} {cs : List α} :
    splitFirst sep cs = none ↔ sep ∉ cs := by
  induction cs with
  | nil => simp [splitFirst]
  | cons c cs ih =>
    rw [splitFirst, List.mem_cons, not_or, ← ih]
    split
    · next h => simp [h]
    · next h => simp [Ne.symm h]

theorem append_sep_inj {sep : α} {a b a' b' : List α} (ha : sep ∉ a) (ha' : sep ∉ a')
    (h : a ++ sep :: b = a' ++ sep :: b') : a = a' ∧ b = b' := by
  have hsplit : some (a, b) = some (a', b') :=
    (splitFirst_eq_some_iff.2 ⟨rfl, ha⟩).symm.trans (splitFirst_eq_some_iff.2 ⟨h, ha'⟩)
  exact Prod.mk.inj (Option.some.inj hsplit)

theorem splitFirst_concat {sep c : α} (h : c ≠ sep) (cs : List α) :
    splitFirst sep (cs ++ [c]) = (splitFirst sep cs).map fun r => (r.1, r.2 ++ [c]) := by
  induction cs with
  | nil => simp [splitFirst, h]
  | cons d cs ih =>
    rw [List.cons_append, splitFirst, splitFirst, ih]
    split
    · rfl
    · cases splitFirst sep cs <;> rfl

end DocumentLint.Text
