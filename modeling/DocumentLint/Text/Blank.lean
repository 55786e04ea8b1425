/-! # Blank characters

A character is blank when it has the `White_Space` property. Trimming takes
blanks away at both ends of a text and nowhere else.
-/

namespace DocumentLint.Text

def isBlank (c : Char) : Bool :=
  let n := c.toNat
  (9 ≤ n && n ≤ 13) || n == 0x20 || n == 0x85 || n == 0xA0 || n == 0x1680 ||
    (0x2000 ≤ n && n ≤ 0x200A) || n == 0x2028 || n == 0x2029 || n == 0x202F || n == 0x205F ||
    n == 0x3000

def trimStart (cs : List Char) : List Char := cs.dropWhile isBlank

def trimEnd (cs : List Char) : List Char := (cs.reverse.dropWhile isBlank).reverse

def trim (cs : List Char) : List Char := trimEnd (trimStart cs)

theorem trimEnd_nil : trimEnd [] = [] := rfl

theorem trimEnd_concat (cs : List Char) (c : Char) :
    trimEnd (cs ++ [c]) = if isBlank c then trimEnd cs else cs ++ [c] := by
  simp only [trimEnd, List.reverse_append, List.reverse_cons, List.reverse_nil, List.nil_append,
    List.cons_append, List.dropWhile_cons]
  split <;> simp

theorem not_isBlank_of_mem_head?_trimStart {cs : List Char} {c : Char}
    (h : c ∈ (trimStart cs).head?) : ¬ isBlank c := by
  have hd := List.head?_dropWhile_not isBlank cs
  rw [← trimStart, h] at hd
  simpa using hd

theorem trimStart_eq_self {cs : List Char} (h : ∀ c ∈ cs.head?, ¬ isBlank c) :
    trimStart cs = cs := by
  cases cs with
  | nil => rfl
  | cons c cs =>
    have hc : isBlank c = false := by simpa using h
    rw [trimStart, List.dropWhile_cons_of_neg (by simp [hc])]

theorem not_isBlank_of_mem_getLast?_trimEnd {cs : List Char} {c : Char}
    (h : c ∈ (trimEnd cs).getLast?) : ¬ isBlank c := by
  rw [trimEnd, List.getLast?_reverse] at h
  exact not_isBlank_of_mem_head?_trimStart h

theorem trimEnd_eq_self {cs : List Char} (h : ∀ c ∈ cs.getLast?, ¬ isBlank c) :
    trimEnd cs = cs := by
  have hs : trimStart cs.reverse = cs.reverse := trimStart_eq_self (by simpa using h)
  rw [trimEnd, ← trimStart, hs, List.reverse_reverse]

/-! ## Trimming at both ends -/

/-- What is left of a text without the blanks at its ends. -/
def TrimsTo (cs t : List Char) : Prop :=
  ∃ front back, cs = front ++ t ++ back ∧ (∀ c ∈ front, isBlank c = true) ∧
    (∀ c ∈ back, isBlank c = true) ∧ (∀ c ∈ t.head?, ¬ isBlank c) ∧ ∀ c ∈ t.getLast?, ¬ isBlank c

theorem trimStart_append_of_blank {front : List Char} (h : ∀ c ∈ front, isBlank c = true)
    (cs : List Char) : trimStart (front ++ cs) = trimStart cs :=
  List.dropWhile_append_of_pos h

theorem trimEnd_append_of_blank {back : List Char} (h : ∀ c ∈ back, isBlank c = true)
    (cs : List Char) : trimEnd (cs ++ back) = trimEnd cs := by
  rw [trimEnd, List.reverse_append, List.dropWhile_append_of_pos (by simpa using h), ← trimEnd]

theorem exists_eq_append_trimStart (cs : List Char) :
    ∃ front, cs = front ++ trimStart cs ∧ ∀ c ∈ front, isBlank c = true :=
  ⟨cs.takeWhile isBlank, (List.takeWhile_append_dropWhile ..).symm,
    List.all_eq_true.1 List.all_takeWhile⟩

theorem exists_eq_trimEnd_append (cs : List Char) :
    ∃ back, cs = trimEnd cs ++ back ∧ ∀ c ∈ back, isBlank c = true := by
  obtain ⟨front, hcs, hfront⟩ := exists_eq_append_trimStart cs.reverse
  refine ⟨front.reverse, ?_, by simpa using hfront⟩
  rw [← List.reverse_inj, List.reverse_append, List.reverse_reverse, trimEnd, List.reverse_reverse]
  exact hcs

theorem trim_eq_iff {cs t : List Char} : trim cs = t ↔ TrimsTo cs t := by
  constructor
  · rintro rfl
    obtain ⟨front, hcs, hfront⟩ := exists_eq_append_trimStart cs
    obtain ⟨back, hback, hblank⟩ := exists_eq_trimEnd_append (trimStart cs)
    refine ⟨front, back, ?_, hfront, hblank, fun c hc => ?_,
      fun c hc => not_isBlank_of_mem_getLast?_trimEnd hc⟩
    · rw [trim, List.append_assoc, ← hback, ← hcs]
    · have hstart : c ∈ (trimStart cs).head? := by
        rw [hback, List.head?_append, ← trim, hc]
        rfl
      exact not_isBlank_of_mem_head?_trimStart hstart
  · rintro ⟨front, back, rfl, hfront, hback, hhead, hlast⟩
    rw [trim, List.append_assoc, trimStart_append_of_blank hfront]
    cases t with
    | nil =>
      have hnil : trimStart back = [] := by
        simpa [trimStart] using trimStart_append_of_blank hback []
      rw [List.nil_append, hnil, trimEnd_nil]
    | cons c t =>
      rw [trimStart_eq_self (by simpa using hhead), trimEnd_append_of_blank hback,
        trimEnd_eq_self hlast]

theorem trim_concat {cs : List Char} {c : Char} (hc : isBlank c = true) :
    trim (cs ++ [c]) = trim cs := by
  obtain ⟨front, back, hcs, hfront, hback, hends⟩ := trim_eq_iff.1 (Eq.refl (trim cs))
  refine trim_eq_iff.2 ⟨front, back ++ [c], ?_, hfront, ?_, hends⟩
  · rw [← List.append_assoc, ← hcs]
  · rintro d hd
    rcases List.mem_append.1 hd with hd | hd
    · exact hback d hd
    · rwa [List.mem_singleton.1 hd]

end DocumentLint.Text
