import Mathlib.Logic.Relation
import DocumentLint.Config.Expansion

/-! # Laws of expansion

Expansion goes over a text once, from the left, and never looks at the values that it puts in. It
is the only function that keeps plain texts and open references, replaces single references, and
can be done part by part wherever no reference is cut.
-/

namespace DocumentLint.Expansion

variable {lookup : String → Option String} {c : Char} {cs name rest a b : List Char}

/-- What a reference begins with. -/
def opening : List Char := ['$', '\x7b']

theorem opening_prefix_iff : opening <+: c :: cs ↔ c = '$' ∧ cs.head? = some '\x7b' := by
  cases cs with
  | nil => simp [opening]
  | cons d cs => simp [opening, List.cons_prefix_cons, eq_comm]

theorem chars_cons (h : ¬ opening <+: c :: cs) : chars lookup (c :: cs) = c :: chars lookup cs := by
  rw [chars]
  rintro cs' rfl rfl
  exact h (by simp [opening])

theorem chars_reference (h : '\x7d' ∉ name) :
    chars lookup ('$' :: '\x7b' :: (name ++ '\x7d' :: rest)) =
      valueOf lookup name ++ chars lookup rest := by
  have hsplit : Text.splitFirst '\x7d' (name ++ '\x7d' :: rest) = some (name, rest) :=
    Text.splitFirst_eq_some_iff.2 ⟨rfl, h⟩
  rw [chars]
  split
  · next hnone => simp [hsplit] at hnone
  · next hsome =>
    rw [hsplit] at hsome
    cases hsome
    rfl

theorem chars_unclosed (h : '\x7d' ∉ cs) :
    chars lookup ('$' :: '\x7b' :: cs) = '$' :: '\x7b' :: cs := by
  have hsplit : Text.splitFirst '\x7d' cs = none := Text.splitFirst_eq_none_iff.2 h
  rw [chars]
  split
  · rfl
  · next hsome => simp [hsplit] at hsome

/-- A text in which a scan from the left finds every reference closed. -/
inductive Closed : List Char → Prop where
  | nil : Closed []
  | plain {c : Char} {cs : List Char} : ¬ opening <+: c :: cs → Closed cs → Closed (c :: cs)
  | reference {name rest : List Char} : '\x7d' ∉ name → Closed rest →
      Closed ('$' :: '\x7b' :: (name ++ '\x7d' :: rest))

theorem Closed.of_plain (h : ¬ opening <:+: cs) : Closed cs := by
  induction cs with
  | nil => exact .nil
  | cons c cs ih =>
    rw [List.infix_cons_iff, not_or] at h
    exact .plain h.1 (ih h.2)

theorem chars_of_plain (h : ¬ opening <:+: cs) : chars lookup cs = cs := by
  induction cs with
  | nil => rw [chars]
  | cons c cs ih =>
    rw [List.infix_cons_iff, not_or] at h
    rw [chars_cons h.1, ih h.2]

/-- Parts are expanded on their own where no reference is open and none begins across the cut. -/
theorem Closed.chars_append (ha : Closed a)
    (hb : ¬ (a.getLast? = some '$' ∧ b.head? = some '\x7b')) :
    chars lookup (a ++ b) = chars lookup a ++ chars lookup b := by
  induction ha with
  | nil => simp [chars]
  | @plain c cs hc _ ih =>
    have hcut : ¬ opening <+: c :: (cs ++ b) := by
      rw [opening_prefix_iff] at hc ⊢
      cases cs with
      | nil => simpa using hb
      | cons d cs => simpa using hc
    have hlast : ¬ (cs.getLast? = some '$' ∧ b.head? = some '\x7b') := by
      rintro ⟨hcs, hhead⟩
      exact hb ⟨by simp [List.getLast?_cons, hcs], hhead⟩
    rw [List.cons_append, chars_cons hcut, chars_cons hc, ih hlast, List.cons_append]
  | @reference name rest hname _ ih =>
    have hlast : ¬ (rest.getLast? = some '$' ∧ b.head? = some '\x7b') := by
      rintro ⟨hrest, hhead⟩
      exact hb ⟨by simp [List.getLast?_cons, List.getLast?_append, hrest], hhead⟩
    have hassoc : '$' :: '\x7b' :: (name ++ '\x7d' :: rest) ++ b =
        '$' :: '\x7b' :: (name ++ '\x7d' :: (rest ++ b)) := by simp
    rw [hassoc, chars_reference hname, chars_reference hname, ih hlast, List.append_assoc]

/-! ## The laws -/

/-- What an expansion of texts is asked to do. -/
structure Laws (lookup : String → Option String) (f : String → String) : Prop where
  plain : ∀ s, ¬ opening <:+: s.toList → f s = s
  /-- The value is put in as it is, whatever it holds. -/
  reference : ∀ name, '\x7d' ∉ name.toList →
    f ("$\x7b" ++ name ++ "\x7d") = if name = "" then "" else (lookup name).getD ""
  unclosed : ∀ s, '\x7d' ∉ s.toList → f ("$\x7b" ++ s) = "$\x7b" ++ s
  append : ∀ s t, Closed s.toList →
    ¬ (s.toList.getLast? = some '$' ∧ t.toList.head? = some '\x7b') → f (s ++ t) = f s ++ f t

theorem laws_text (lookup : String → Option String) : Laws lookup (text lookup) where
  plain s h := by rw [text, chars_of_plain h, String.ofList_toList]
  reference name h := by
    have hlist : ("$\x7b" ++ name ++ "\x7d").toList =
        '$' :: '\x7b' :: (name.toList ++ '\x7d' :: []) := by simp
    rw [text, hlist, chars_reference h, chars, List.append_nil, valueOf]
    by_cases hname : name = "" <;> simp [hname]
  unclosed s h := by
    have hlist : ("$\x7b" ++ s).toList = '$' :: '\x7b' :: s.toList := by simp
    rw [text, hlist, chars_unclosed h, ← hlist, String.ofList_toList]
  append s t hs hcut := by
    rw [text, String.toList_append, hs.chars_append hcut, String.ofList_append]
    rfl

/-- The laws leave no choice: the induction is on the scan of the text. -/
theorem Laws.eq_text {f : String → String} (h : Laws lookup f) : f = text lookup := by
  have hchars (cs : List Char) : f (String.ofList cs) = String.ofList (chars lookup cs) := by
    fun_induction chars lookup cs with
    | case1 => exact h.plain "" (by simp [opening])
    | case2 cs hsplit =>
      have hlist : String.ofList ('$' :: '\x7b' :: cs) = "$\x7b" ++ String.ofList cs :=
        String.toList_inj.1 (by simp)
      rw [hlist]
      refine h.unclosed _ ?_
      rw [String.toList_ofList]
      exact Text.splitFirst_eq_none_iff.1 hsplit
    | case3 cs name rest hsplit ih =>
      obtain ⟨rfl, hname⟩ := Text.splitFirst_eq_some_iff.1 hsplit
      have hlist : String.ofList ('$' :: '\x7b' :: (name ++ '\x7d' :: rest)) =
          "$\x7b" ++ String.ofList name ++ "\x7d" ++ String.ofList rest :=
        String.toList_inj.1 (by simp)
      have hvalue : f ("$\x7b" ++ String.ofList name ++ "\x7d") =
          String.ofList (valueOf lookup name) := by
        rw [h.reference _ (by simpa using hname), valueOf]
        cases name <;> simp
      have hclosed : Closed ("$\x7b" ++ String.ofList name ++ "\x7d").toList := by
        simpa using Closed.reference hname .nil
      have hcut : ¬ (("$\x7b" ++ String.ofList name ++ "\x7d").toList.getLast? = some '$' ∧
          (String.ofList rest).toList.head? = some '\x7b') := by
        simp [List.getLast?_append, List.getLast?_cons]
      rw [hlist, h.append _ _ hclosed hcut, hvalue, ih, String.ofList_append]
    | case4 c cs hc ih =>
      have hfirst : ¬ opening <+: c :: cs := by
        intro hopens
        obtain ⟨rfl, hhead⟩ := opening_prefix_iff.1 hopens
        obtain ⟨cs', rfl⟩ := List.head?_eq_some_iff.1 hhead
        exact hc cs' rfl rfl
      have halone : ¬ opening <:+: [c] := by simp [opening, List.infix_cons_iff]
      have hcut : ¬ ((String.ofList [c]).toList.getLast? = some '$' ∧
          (String.ofList cs).toList.head? = some '\x7b') := by
        simpa [opening_prefix_iff] using hfirst
      have hlist (ds : List Char) :
          String.ofList (c :: ds) = String.ofList [c] ++ String.ofList ds :=
        String.toList_inj.1 (by simp)
      rw [hlist, hlist (chars lookup cs), h.append _ _ (.of_plain (by simpa using halone)) hcut,
        h.plain _ (by simpa using halone), ih]
  funext s
  simpa [text] using hchars s.toList

/-! ## The scan, round by round -/

/-- One round of the scan, from what is written so far and what is left to read: what stands in
front of the first reference is copied, and the value of the reference is put in. -/
inductive Round (lookup : String → Option String) :
    List Char × List Char → List Char × List Char → Prop where
  | step {out before name rest : List Char} : ¬ opening <:+: before → '\x7d' ∉ name →
      Round lookup (out, before ++ '$' :: '\x7b' :: (name ++ '\x7d' :: rest))
        (out ++ before ++ valueOf lookup name, rest)

variable {x y : List Char × List Char}

theorem Round.length_lt (h : Round lookup x y) : y.2.length < x.2.length := by
  cases h with
  | step =>
    simp only [List.length_append, List.length_cons]
    omega

theorem Round.mem_snd (h : Round lookup x y) : '\x7d' ∈ x.2 := by
  cases h with
  | step => simp

theorem wellFounded_round (lookup : String → Option String) :
    WellFounded fun y x => Round lookup x y :=
  Subrelation.wf Round.length_lt (measure fun x : List Char × List Char => x.2.length).wf

theorem exists_end (lookup : String → Option String) (x : List Char × List Char) :
    ∃ y, Relation.ReflTransGen (Round lookup) x y ∧ ∀ z, ¬ Round lookup y z := by
  induction x using (wellFounded_round lookup).induction with
  | _ x ih =>
    by_cases hx : ∃ y, Round lookup x y
    · obtain ⟨y, hxy⟩ := hx
      obtain ⟨z, hyz, hend⟩ := ih y hxy
      exact ⟨z, .head hxy hyz, hend⟩
    · exact ⟨x, .refl, not_exists.1 hx⟩

theorem chars_of_opening {before after : List Char} (h : ¬ opening <:+: before) :
    chars lookup (before ++ '$' :: '\x7b' :: after) =
      before ++ chars lookup ('$' :: '\x7b' :: after) := by
  rw [(Closed.of_plain h).chars_append (by simp), chars_of_plain h]

theorem Round.chars_eq (h : Round lookup x y) :
    y.1 ++ chars lookup y.2 = x.1 ++ chars lookup x.2 := by
  cases h with
  | step hbefore hname =>
    rw [chars_of_opening hbefore, chars_reference hname]
    simp

theorem Round.chars_eq_of_reflTransGen (h : Relation.ReflTransGen (Round lookup) x y) :
    y.1 ++ chars lookup y.2 = x.1 ++ chars lookup x.2 := by
  induction h with
  | refl => rfl
  | tail _ hround ih => exact hround.chars_eq.trans ih

theorem exists_first_opening (h : opening <:+: cs) :
    ∃ before after, cs = before ++ '$' :: '\x7b' :: after ∧ ¬ opening <:+: before := by
  induction cs with
  | nil => simp [opening] at h
  | cons c cs ih =>
    by_cases hc : opening <+: c :: cs
    · obtain ⟨after, hafter⟩ := hc
      exact ⟨[], after, hafter.symm, by simp [opening]⟩
    · obtain ⟨before, after, rfl, hbefore⟩ := ih ((List.infix_cons_iff.1 h).resolve_left hc)
      refine ⟨c :: before, after, rfl, ?_⟩
      rw [List.infix_cons_iff, not_or]
      refine ⟨?_, hbefore⟩
      intro hopens
      exact hc (hopens.trans (by simp))

theorem chars_eq_of_forall_not_round (h : ∀ y, ¬ Round lookup x y) : chars lookup x.2 = x.2 := by
  obtain ⟨out, cs⟩ := x
  by_cases hcs : opening <:+: cs
  · obtain ⟨before, after, rfl, hbefore⟩ := exists_first_opening hcs
    cases hsplit : Text.splitFirst '\x7d' after with
    | none =>
      rw [chars_of_opening hbefore, chars_unclosed (Text.splitFirst_eq_none_iff.1 hsplit)]
    | some parts =>
      obtain ⟨rfl, hname⟩ := Text.splitFirst_eq_some_iff.1 hsplit
      exact absurd (Round.step hbefore hname) (h _)
  · exact chars_of_plain hcs

/-- Expansion is what its laws say, and nothing else obeys them. The scan comes to an end on every
text, and what is then written and left is the expanded text. -/
theorem text_eq_of_laws (lookup : String → Option String) :
    (∀ f : String → String, Laws lookup f ↔ f = text lookup) ∧
    (WellFounded fun y x => Round lookup x y) ∧
    ∀ s, (∃ x, Relation.ReflTransGen (Round lookup) ([], s.toList) x ∧ ∀ y, ¬ Round lookup x y) ∧
      ∀ x, Relation.ReflTransGen (Round lookup) ([], s.toList) x → (∀ y, ¬ Round lookup x y) →
        (text lookup s).toList = x.1 ++ x.2 := by
  refine ⟨fun f => ⟨Laws.eq_text, ?_⟩, wellFounded_round lookup, fun s => ⟨exists_end lookup _, ?_⟩⟩
  · rintro rfl
    exact laws_text lookup
  · intro x hscan hend
    have hresult := Round.chars_eq_of_reflTransGen hscan
    rw [chars_eq_of_forall_not_round hend] at hresult
    rw [text, String.toList_ofList, hresult]
    rfl

/-- A value that looks like a reference stays as it is, and so does a reference without an end. -/
theorem text_eq_of_laws_verbatim :
    let lookup (name : String) : Option String :=
      if name = "HOME" then some "$\x7bOUT\x7d" else none
    let read : List Char × List Char := ("$$\x7bOUT\x7d".toList, "$\x7bX".toList)
    Laws lookup (text lookup) ∧
      Relation.ReflTransGen (Round lookup) ([], "$$\x7bHOME\x7d$\x7bX".toList) read ∧
      (∀ y, ¬ Round lookup read y) ∧
      text lookup "$$\x7bHOME\x7d$\x7bX" = "$$\x7bOUT\x7d$\x7bX" := by
  intro lookup read
  obtain ⟨hlaws, -, hscan⟩ := text_eq_of_laws lookup
  have hround : Round lookup
      ([], ['$'] ++ '$' :: '\x7b' :: (['H', 'O', 'M', 'E'] ++ '\x7d' :: ['$', '\x7b', 'X']))
      ([] ++ ['$'] ++ valueOf lookup ['H', 'O', 'M', 'E'], ['$', '\x7b', 'X']) :=
    .step (by decide) (by decide)
  have hvalue : valueOf lookup ['H', 'O', 'M', 'E'] = "$\x7bOUT\x7d".toList := by decide +kernel
  rw [hvalue] at hround
  have hread : Relation.ReflTransGen (Round lookup) ([], "$$\x7bHOME\x7d$\x7bX".toList) read :=
    .single hround
  have hend : ∀ y, ¬ Round lookup read y := by
    intro y hy
    exact absurd hy.mem_snd (by decide)
  refine ⟨(hlaws _).2 rfl, hread, hend, String.toList_inj.1 ?_⟩
  exact (hscan _).2 read hread hend

/-! ## Texts that no environment changes -/

/-- Somewhere behind an opening there is an end. -/
def HasReference (cs : List Char) : Prop :=
  ∃ before name rest : List Char, cs = before ++ '$' :: '\x7b' :: (name ++ '\x7d' :: rest)

theorem chars_of_not_hasReference (h : ¬ HasReference cs) : chars lookup cs = cs := by
  refine chars_eq_of_forall_not_round (x := ([], cs)) ?_
  rintro y ⟨_, _⟩
  exact h ⟨_, _, _, rfl⟩

theorem valueOf_unset (name : List Char) : valueOf (fun _ => none) name = [] := by
  simp [valueOf]

theorem length_chars_unset_le (cs : List Char) :
    (chars (fun _ => none) cs).length ≤ cs.length := by
  fun_induction chars (fun _ => none) cs with
  | case1 => simp
  | case2 => simp
  | case3 cs name rest hsplit ih =>
    obtain ⟨rfl, _⟩ := Text.splitFirst_eq_some_iff.1 hsplit
    simp only [valueOf_unset, List.nil_append, List.length_cons, List.length_append]
    omega
  | case4 c cs _ ih => simpa using ih

theorem not_hasReference_of_chars_unset_eq (h : chars (fun _ => none) cs = cs) :
    ¬ HasReference cs := by
  fun_induction chars (fun _ => none) cs with
  | case1 => simp [HasReference]
  | case2 cs hsplit =>
    rintro ⟨before, name, rest, hcs⟩
    have hmem : '\x7d' ∈ '$' :: '\x7b' :: cs := by simp [hcs]
    exact Text.splitFirst_eq_none_iff.1 hsplit (by simpa using hmem)
  | case3 cs name rest hsplit =>
    -- What is left of the text is shorter than the text by the whole reference.
    obtain ⟨rfl, _⟩ := Text.splitFirst_eq_some_iff.1 hsplit
    have hlength := congrArg List.length h
    have hle := length_chars_unset_le rest
    simp only [valueOf_unset, List.nil_append, List.length_cons, List.length_append] at hlength
    omega
  | case4 c cs hc ih =>
    rintro ⟨before, name, rest, hcs⟩
    cases before with
    | nil =>
      obtain ⟨rfl, rfl⟩ := List.cons.inj hcs
      exact hc _ rfl rfl
    | cons b before =>
      obtain ⟨_, htail⟩ := List.cons.inj hcs
      exact ih (List.cons.inj h).2 ⟨before, name, rest, htail⟩

theorem forall_text_eq_iff {s : String} :
    (∀ lookup, text lookup s = s) ↔ ¬ HasReference s.toList := by
  constructor
  · intro h
    refine not_hasReference_of_chars_unset_eq ?_
    simpa [text] using congrArg String.toList (h fun _ => none)
  · intro h lookup
    rw [text, chars_of_not_hasReference h, String.ofList_toList]

end DocumentLint.Expansion
