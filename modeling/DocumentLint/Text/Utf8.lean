/-! # Decoding UTF-8

A machine reads octets one at a time and reports a character, or an
ill-formed sequence as soon as an octet rules it out; that octet is then read
afresh. The strict reading refuses any ill-formed sequence, and the lossy one
writes a replacement character for each. Both give back what was encoded.
-/

namespace DocumentLint.Text.Utf8

/-- Between characters, or inside one: its bits so far, the octets still owed,
and the least and greatest value that the next octet may have. -/
inductive State where
  | start
  | inside (bits owed low high : Nat)

/-- The state after the first octet of a character of more than one octet. -/
def lead (b : Nat) : Option State :=
  if 0xC2 ≤ b ∧ b ≤ 0xDF then some (.inside (b - 0xC0) 1 0x80 0xBF)
  else if b = 0xE0 then some (.inside 0 2 0xA0 0xBF)
  else if b = 0xED then some (.inside 0xD 2 0x80 0x9F)
  else if 0xE1 ≤ b ∧ b ≤ 0xEF then some (.inside (b - 0xE0) 2 0x80 0xBF)
  else if b = 0xF0 then some (.inside 0 3 0x90 0xBF)
  else if 0xF1 ≤ b ∧ b ≤ 0xF3 then some (.inside (b - 0xF0) 3 0x80 0xBF)
  else if b = 0xF4 then some (.inside 4 3 0x80 0x8F)
  else none

/-- Reads an octet between characters: what is reported, and the next state. -/
def first (b : Nat) : List (Option Char) × State :=
  if b < 0x80 then ([some (Char.ofNat b)], .start)
  else match lead b with
    | some q => ([], q)
    | none => ([none], .start)

def step : State → Nat → List (Option Char) × State
  | .start, b => first b
  | .inside bits owed low high, b =>
    if low ≤ b ∧ b ≤ high then
      let bits := bits * 64 + (b - 0x80)
      if owed ≤ 1 then ([some (Char.ofNat bits)], .start)
      else ([], .inside bits (owed - 1) 0x80 0xBF)
    else (none :: (first b).1, (first b).2)

/-- The characters of a sequence of octets, `none` for each ill-formed part. -/
def scan : State → List UInt8 → List (Option Char)
  | .start, [] => []
  | .inside .., [] => [none]
  | q, b :: bs => (step q b.toNat).1 ++ scan (step q b.toNat).2 bs

def decode? (bytes : List UInt8) : Option String :=
  ((scan .start bytes).mapM id).map String.ofList

def decodeLossy (bytes : List UInt8) : String :=
  String.ofList ((scan .start bytes).map (·.getD '\uFFFD'))

def encode (s : String) : List UInt8 := s.toList.flatMap String.utf8EncodeChar

section Step

variable {bits owed low high b : Nat}

theorem step_inside (ho : 1 < owed) (hb : low ≤ b ∧ b ≤ high) :
    step (.inside bits owed low high) b =
      ([], .inside (bits * 64 + (b - 0x80)) (owed - 1) 0x80 0xBF) := by
  rw [step, if_pos hb, if_neg (by omega)]

theorem step_inside_last (ho : owed ≤ 1) (hb : low ≤ b ∧ b ≤ high) :
    step (.inside bits owed low high) b =
      ([some (Char.ofNat (bits * 64 + (b - 0x80)))], .start) := by
  rw [step, if_pos hb, if_pos ho]

theorem step_inside_of_not (hb : ¬ (low ≤ b ∧ b ≤ high)) :
    step (.inside bits owed low high) b = (none :: (first b).1, (first b).2) := by
  rw [step, if_neg hb]

end Step

/-! ## What is encoded is decoded -/

section Decoding

variable {v n bits owed low high : Nat} {q : State} (bs : List UInt8)

theorem exists_lead_two (hv : 0x80 ≤ v) (hv' : v ≤ 0x7FF) : ∃ low high,
    lead (v / 64 % 32 + 192) = some (.inside (v / 64) 1 low high) ∧
      low ≤ v % 64 + 128 ∧ v % 64 + 128 ≤ high := by
  refine ⟨0x80, 0xBF, ?_, by omega, by omega⟩
  have hbits : v / 64 % 32 + 192 - 0xC0 = v / 64 := by omega
  rw [lead, if_pos (by omega), hbits]

theorem exists_lead_three (hv : 0x800 ≤ v) (hv' : v ≤ 0xFFFF) (hc : v.isValidChar) : ∃ low high,
    lead (v / 4096 % 16 + 224) = some (.inside (v / 4096) 2 low high) ∧
      low ≤ v / 64 % 64 + 128 ∧ v / 64 % 64 + 128 ≤ high := by
  unfold Nat.isValidChar at hc
  rw [lead, if_neg (by omega)]
  split
  · exact ⟨_, _, by rw [show v / 4096 = 0 by omega], by omega, by omega⟩
  · split
    · -- surrogates are no characters
      exact ⟨_, _, by rw [show v / 4096 = 0xD by omega], by omega, by omega⟩
    · have hbits : v / 4096 % 16 + 224 - 0xE0 = v / 4096 := by omega
      rw [if_pos (by omega), hbits]
      exact ⟨_, _, rfl, by omega, by omega⟩

theorem exists_lead_four (hv : 0x10000 ≤ v) (hc : v.isValidChar) : ∃ low high,
    lead (v / 262144 % 8 + 240) = some (.inside (v / 262144) 3 low high) ∧
      low ≤ v / 4096 % 64 + 128 ∧ v / 4096 % 64 + 128 ≤ high := by
  unfold Nat.isValidChar at hc
  rw [lead, if_neg (by omega), if_neg (by omega), if_neg (by omega), if_neg (by omega)]
  split
  · exact ⟨_, _, by rw [show v / 262144 = 0 by omega], by omega, by omega⟩
  · split
    · have hbits : v / 262144 % 8 + 240 - 0xF0 = v / 262144 := by omega
      rw [hbits]
      exact ⟨_, _, rfl, by omega, by omega⟩
    · rw [if_pos (by omega)]
      exact ⟨_, _, by rw [show v / 262144 = 4 by omega], by omega, by omega⟩

theorem toNat_octet (hn : n < 256) : (UInt8.ofNat n).toNat = n := by
  rw [UInt8.toNat_ofNat', Nat.mod_eq_of_lt hn]

theorem scan_ascii (hn : n < 0x80) :
    scan .start (UInt8.ofNat n :: bs) = some (Char.ofNat n) :: scan .start bs := by
  rw [scan, step, toNat_octet (by omega), first, if_pos hn]
  rfl

theorem scan_lead (hn : 0x80 ≤ n) (hn' : n < 256) (hq : lead n = some q) :
    scan .start (UInt8.ofNat n :: bs) = scan q bs := by
  rw [scan, step, toNat_octet hn', first, if_neg (by omega), hq]
  rfl

theorem scan_inside (ho : 1 < owed) (hl : low ≤ n) (hh : n ≤ high) (hn : n < 256) :
    scan (.inside bits owed low high) (UInt8.ofNat n :: bs) =
      scan (.inside (bits * 64 + (n - 0x80)) (owed - 1) 0x80 0xBF) bs := by
  rw [scan, toNat_octet hn, Utf8.step_inside ho ⟨hl, hh⟩]
  rfl

theorem scan_inside_last (hl : low ≤ n) (hh : n ≤ high) (hn : n < 256) :
    scan (.inside bits 1 low high) (UInt8.ofNat n :: bs) =
      some (Char.ofNat (bits * 64 + (n - 0x80))) :: scan .start bs := by
  rw [scan, toNat_octet hn, step_inside_last (Nat.le_refl 1) ⟨hl, hh⟩]
  rfl

/-- A character is read back, whatever follows it. -/
theorem scan_utf8EncodeChar (c : Char) :
    scan .start (String.utf8EncodeChar c ++ bs) = some c :: scan .start bs := by
  have hvalid : c.toNat.isValidChar := c.valid
  have hbound : c.toNat < 0x110000 := by
    unfold Nat.isValidChar at hvalid
    omega
  have hchar {n : Nat} (hn : n = c.toNat) : Char.ofNat n = c := hn ▸ Char.ofNat_toNat c
  have hval : c.val.toNat = c.toNat := rfl
  unfold String.utf8EncodeChar
  simp only [hval]
  generalize c.toNat = v at hvalid hbound hchar ⊢
  split
  · rw [List.singleton_append, scan_ascii _ (by omega), hchar rfl]
  split
  · obtain ⟨low, high, hlead, hl, hh⟩ := exists_lead_two (v := v) (by omega) (by omega)
    rw [List.cons_append, scan_lead _ (by omega) (by omega) hlead, List.singleton_append,
      scan_inside_last _ hl hh (by omega), hchar (by omega)]
  split
  · obtain ⟨low, high, hlead, hl, hh⟩ := exists_lead_three (v := v) (by omega) (by omega) hvalid
    rw [List.cons_append, scan_lead _ (by omega) (by omega) hlead, List.cons_append,
      scan_inside _ (by omega) hl hh (by omega), List.singleton_append,
      scan_inside_last _ (by omega) (by omega) (by omega), hchar (by omega)]
  · obtain ⟨low, high, hlead, hl, hh⟩ := exists_lead_four (v := v) (by omega) hvalid
    rw [List.cons_append, scan_lead _ (by omega) (by omega) hlead, List.cons_append,
      scan_inside _ (by omega) hl hh (by omega), List.cons_append,
      scan_inside _ (by omega) (by omega) (by omega) (by omega), List.singleton_append,
      scan_inside_last _ (by omega) (by omega) (by omega), hchar (by omega)]

theorem scan_encode (cs : List Char) :
    scan .start (cs.flatMap String.utf8EncodeChar) = cs.map some := by
  induction cs with
  | nil => rfl
  | cons c cs ih => rw [List.flatMap_cons, scan_utf8EncodeChar, ih, List.map_cons]

theorem decodeLossy_encode (s : String) : decodeLossy (encode s) = s := by
  have hsome : (fun c : Option Char => c.getD '\uFFFD') ∘ some = id := rfl
  rw [decodeLossy, encode, scan_encode, List.map_map, hsome, List.map_id, String.ofList_toList]

end Decoding

/-! ## Characters of one octet -/

section Ascii

variable {q : State} {b : Nat} {bs : List UInt8} {c : Char}

theorem eq_toNat_of_mem_utf8EncodeChar {b : UInt8} (h : b ∈ String.utf8EncodeChar c)
    (hb : b.toNat < 0x80) : b.toNat = c.toNat := by
  have hval : c.val.toNat = c.toNat := rfl
  have hbound : c.toNat < 0x110000 := by
    have hvalid : c.toNat.isValidChar := c.valid
    unfold Nat.isValidChar at hvalid
    omega
  unfold String.utf8EncodeChar at h
  simp only [hval] at h
  split at h
  · rw [List.mem_singleton.1 h, toNat_octet (by omega)]
  -- the octets of a longer character are greater
  split at h
  · simp only [List.mem_cons, List.not_mem_nil, or_false] at h
    rcases h with rfl | rfl <;> rw [toNat_octet (by omega)] at hb <;> omega
  split at h
  · simp only [List.mem_cons, List.not_mem_nil, or_false] at h
    rcases h with rfl | rfl | rfl <;> rw [toNat_octet (by omega)] at hb <;> omega
  · simp only [List.mem_cons, List.not_mem_nil, or_false] at h
    rcases h with rfl | rfl | rfl | rfl <;> rw [toNat_octet (by omega)] at hb <;> omega

/-- Inside a character enough bits are read for it to need more than one octet. -/
def State.Wide : State → Prop
  | .start => True
  | .inside bits owed low _ =>
    0x80 ≤ low ∧ (if owed ≤ 1 then 0x80 else 2) ≤ bits * 64 + (low - 0x80)

theorem wide_lead (hq : lead b = some q) : q ≠ .start ∧ q.Wide := by
  have hwide {bits owed low high : Nat} (hl : 0x80 ≤ low)
      (h : (if owed ≤ 1 then 0x80 else 2) ≤ bits * 64 + (low - 0x80))
      (hq : some (.inside bits owed low high) = some q) : q ≠ .start ∧ q.Wide := by
    rw [← Option.some.inj hq]
    exact ⟨nofun, hl, h⟩
  unfold lead at hq
  split at hq
  · exact hwide (by omega) (by simp; omega) hq
  split at hq
  · exact hwide (by omega) (by decide) hq
  split at hq
  · exact hwide (by omega) (by decide) hq
  split at hq
  · exact hwide (by omega) (by simp; omega) hq
  split at hq
  · exact hwide (by omega) (by decide) hq
  split at hq
  · exact hwide (by omega) (by simp; omega) hq
  split at hq
  · exact hwide (by omega) (by decide) hq
  · cases hq

theorem wide_first (b : Nat) : (first b).2.Wide := by
  unfold first
  split
  · trivial
  · split
    · next hq => exact (wide_lead hq).2
    · trivial

theorem State.Wide.step (hq : q.Wide) (b : Nat) : (step q b).2.Wide := by
  cases q with
  | start => exact wide_first b
  | inside bits owed low high =>
    obtain ⟨hlow, hbits⟩ := hq
    by_cases hb : low ≤ b ∧ b ≤ high
    · by_cases ho : owed ≤ 1
      · rw [step_inside_last ho hb]
        trivial
      · rw [step_inside (by omega) hb]
        rw [if_neg ho] at hbits
        refine ⟨Nat.le_refl _, ?_⟩
        split <;> omega
    · rw [step_inside_of_not hb]
      exact wide_first b

end Ascii

end DocumentLint.Text.Utf8
