import Mathlib.Data.List.Basic

/-!
# PercentEncoding — percent-encoded queries and the forms a server reads from them

Bytes that are not allowed are written as a percent sign and two hexadecimal digits.  A form is read
by splitting a query at every ampersand and each piece at its first equals sign; in names and
values a plus sign means a space and an escape the byte it stands for.

`parameters_pair_iff` says when a query written as one name and one encoded value is read as
that: exactly when the encoding escapes what the value has of ampersands and plus signs.
-/

namespace PercentEncoding

abbrev percent : UInt8 := 0x25
abbrev ampersand : UInt8 := 0x26
abbrev plus : UInt8 := 0x2B
abbrev equals : UInt8 := 0x3D
abbrev space : UInt8 := 0x20

/-- The upper-case hexadecimal digit of a number below 16. -/
def hexDigit (n : Nat) : UInt8 := if n < 10 then UInt8.ofNat (0x30 + n) else UInt8.ofNat (0x37 + n)

/-- The value of a hexadecimal digit of either case. -/
def hexValue (b : UInt8) : Option Nat :=
  if 0x30 ≤ b ∧ b ≤ 0x39 then some (b.toNat - 0x30)
  else if 0x41 ≤ b ∧ b ≤ 0x46 then some (b.toNat - 0x37)
  else if 0x61 ≤ b ∧ b ≤ 0x66 then some (b.toNat - 0x57)
  else none

/-- `%XX` -/
def escape (b : UInt8) : List UInt8 := [percent, hexDigit (b.toNat / 16), hexDigit (b.toNat % 16)]

/-- Keep the allowed bytes and escape the others. -/
def encode (allowed : UInt8 → Bool) (bytes : List UInt8) : List UInt8 :=
  bytes.flatMap fun b => if allowed b then [b] else escape b

/-- The byte two hexadecimal digits stand for. -/
def hexByte (high low : UInt8) : Option UInt8 :=
  match hexValue high, hexValue low with
  | some h, some l => some (UInt8.ofNat (16 * h + l))
  | _, _ => none

/-- Read one component of a form; a percent sign without two digits stands for itself. -/
def formDecode : List UInt8 → List UInt8
  | [] => []
  | [b] => [if b = plus then space else b]
  | [b, c] => (if b = plus then space else b) :: formDecode [c]
  | b :: high :: low :: rest =>
      if b = percent then
        match hexByte high low with
        | some byte => byte :: formDecode rest
        | none => percent :: formDecode (high :: low :: rest)
      else
        (if b = plus then space else b) :: formDecode (high :: low :: rest)

/-- The name and the value of one piece. -/
def parameter (piece : List UInt8) : List UInt8 × List UInt8 :=
  (formDecode (piece.takeWhile (· ≠ equals)),
    formDecode ((piece.dropWhile (· ≠ equals)).drop 1))

/-- The parameters of a query; empty pieces count for nothing. -/
def parameters (query : List UInt8) : List (List UInt8 × List UInt8) :=
  ((query.splitOn ampersand).filter (· ≠ [])).map parameter

variable {allowed : UInt8 → Bool}

/-! ## Encoding -/

@[simp] theorem encode_nil : encode allowed [] = [] := rfl

theorem encode_cons (b : UInt8) (bytes : List UInt8) :
    encode allowed (b :: bytes) =
      (if allowed b then [b] else escape b) ++ encode allowed bytes := rfl

theorem encode_append (xs ys : List UInt8) :
    encode allowed (xs ++ ys) = encode allowed xs ++ encode allowed ys :=
  List.flatMap_append

/-- Bytes that are all allowed are written as they are. -/
theorem encode_eq_self {bytes : List UInt8} (h : ∀ b ∈ bytes, allowed b = true) :
    encode allowed bytes = bytes := by
  induction bytes with
  | nil =>
      rfl
  | cons b bytes ih =>
      rw [encode_cons, if_pos (h b List.mem_cons_self),
        ih fun c hc => h c (List.mem_cons_of_mem b hc)]
      rfl

theorem hexValue_hexDigit : ∀ n < 16, hexValue (hexDigit n) = some n := by
  decide

/-- A byte that no escape is made of. -/
def Delimiter (c : UInt8) : Prop := c ≠ percent ∧ ∀ n < 16, c ≠ hexDigit n

instance (c : UInt8) : Decidable (Delimiter c) :=
  inferInstanceAs (Decidable (c ≠ percent ∧ ∀ n < 16, c ≠ hexDigit n))

theorem Delimiter.not_mem_escape {c : UInt8} (hc : Delimiter c) (b : UInt8) : c ∉ escape b := by
  have hhigh := hc.2 (b.toNat / 16) (by have := b.toNat_lt; omega)
  have hlow := hc.2 (b.toNat % 16) (by omega)
  simp only [escape, List.mem_cons, List.not_mem_nil, or_false, not_or]
  exact ⟨hc.1, hhigh, hlow⟩

/-- A delimiter is in the encoded bytes where it is allowed and was there before. -/
theorem mem_encode_iff {c : UInt8} (hc : Delimiter c) {bytes : List UInt8} :
    c ∈ encode allowed bytes ↔ c ∈ bytes ∧ allowed c = true := by
  induction bytes with
  | nil =>
      simp
  | cons b bytes ih =>
      rw [encode_cons, List.mem_append, ih]
      by_cases hb : allowed b = true
      · rw [if_pos hb, List.mem_singleton, List.mem_cons]
        constructor
        · rintro (rfl | ⟨hmem, hall⟩)
          · exact ⟨Or.inl rfl, hb⟩
          · exact ⟨Or.inr hmem, hall⟩
        · rintro ⟨rfl | hmem, hall⟩
          · exact Or.inl rfl
          · exact Or.inr ⟨hmem, hall⟩
      · rw [if_neg hb, List.mem_cons]
        constructor
        · rintro (hesc | ⟨hmem, hall⟩)
          · exact absurd hesc (hc.not_mem_escape b)
          · exact ⟨Or.inr hmem, hall⟩
        · rintro ⟨rfl | hmem, hall⟩
          · exact absurd hall hb
          · exact Or.inr ⟨hmem, hall⟩

/-! ## Decoding -/

/-- A byte other than the percent sign is read on its own. -/
theorem formDecode_cons {b : UInt8} (hpercent : b ≠ percent) (bytes : List UInt8) :
    formDecode (b :: bytes) = (if b = plus then space else b) :: formDecode bytes := by
  rcases bytes with _ | ⟨c, _ | ⟨d, rest⟩⟩
  · rfl
  · rfl
  · simp only [formDecode, if_neg hpercent]

/-- An escape is read as the byte it was written for. -/
theorem formDecode_escape_append (b : UInt8) (bytes : List UInt8) :
    formDecode (escape b ++ bytes) = b :: formDecode bytes := by
  have hhigh := hexValue_hexDigit (b.toNat / 16) (by have := b.toNat_lt; omega)
  have hlow := hexValue_hexDigit (b.toNat % 16) (by omega)
  have hbyte : UInt8.ofNat (16 * (b.toNat / 16) + b.toNat % 16) = b := by
    rw [Nat.div_add_mod, UInt8.ofNat_toNat]
  simp only [escape, List.cons_append, List.nil_append, formDecode, hexByte, if_true, hhigh, hlow,
    hbyte]

/-- What a component is read as: an allowed plus sign comes back as a space, everything else as it
was. -/
theorem formDecode_encode (hpercent : allowed percent = false) (bytes : List UInt8) :
    formDecode (encode allowed bytes) =
      bytes.map fun b => if b = plus ∧ allowed plus = true then space else b := by
  induction bytes with
  | nil =>
      rfl
  | cons b bytes ih =>
      rw [encode_cons, List.map_cons, ← ih]
      by_cases hb : allowed b = true
      · rw [if_pos hb, List.singleton_append]
        have hne : b ≠ percent := by
          rintro rfl
          rw [hpercent] at hb
          cases hb
        rw [formDecode_cons hne]
        by_cases hplus : b = plus
        · subst hplus
          rw [if_pos rfl, if_pos ⟨rfl, hb⟩]
        · rw [if_neg hplus, if_neg fun h => hplus h.1]
      · have hno : ¬ (b = plus ∧ allowed plus = true) := by
          rintro ⟨rfl, hall⟩
          exact hb hall
        rw [if_neg hb, formDecode_escape_append, if_neg hno]

/-- A component comes back as it was exactly when its plus signs were escaped. -/
theorem formDecode_encode_eq_self_iff (hpercent : allowed percent = false) (bytes : List UInt8) :
    formDecode (encode allowed bytes) = bytes ↔ ¬ (plus ∈ bytes ∧ allowed plus = true) := by
  rw [formDecode_encode hpercent]
  constructor
  · rintro h ⟨hmem, hall⟩
    have hmap : plus ∈ bytes.map fun b => if b = plus ∧ allowed plus = true then space else b := by
      rw [h]
      exact hmem
    rcases List.mem_map.1 hmap with ⟨b, _, hb⟩
    by_cases hplus : b = plus
    · rw [if_pos ⟨hplus, hall⟩] at hb
      exact absurd hb (by decide)
    · rw [if_neg fun h => hplus h.1] at hb
      exact hplus hb
  · intro hno
    have hid : ∀ b ∈ bytes, (if b = plus ∧ allowed plus = true then space else b) = id b := by
      intro b hb
      apply if_neg
      rintro ⟨rfl, hall⟩
      exact hno ⟨hb, hall⟩
    rw [List.map_congr_left hid, List.map_id]

theorem length_formDecode_encode (hpercent : allowed percent = false) (bytes : List UInt8) :
    (formDecode (encode allowed bytes)).length = bytes.length := by
  rw [formDecode_encode hpercent, List.length_map]

/-! ## One parameter -/

/-- A name that is written and read as it is. -/
def Plain (name : List UInt8) : Prop :=
  ∀ b ∈ name, b ≠ percent ∧ b ≠ ampersand ∧ b ≠ plus ∧ b ≠ equals

instance (name : List UInt8) : Decidable (Plain name) :=
  inferInstanceAs (Decidable (∀ b ∈ name, _))

theorem Plain.formDecode_eq {name : List UInt8} (h : Plain name) : formDecode name = name := by
  induction name with
  | nil =>
      rfl
  | cons b name ih =>
      have hb := h b List.mem_cons_self
      rw [formDecode_cons hb.1, if_neg hb.2.2.1, ih fun c hc => h c (List.mem_cons_of_mem b hc)]

/-- A piece is split at its first equals sign. -/
theorem parameter_pair {name value : List UInt8} (h : Plain name) :
    parameter (name ++ equals :: value) = (name, formDecode value) := by
  have hname : ∀ b ∈ name, decide (b ≠ equals) = true := fun b hb => by
    simp [(h b hb).2.2.2]
  have htake : (name ++ equals :: value).takeWhile (· ≠ equals) = name := by
    rw [List.takeWhile_append_of_pos hname]
    simp
  have hdrop : (name ++ equals :: value).dropWhile (· ≠ equals) = equals :: value := by
    rw [List.dropWhile_append_of_pos hname]
    simp
  rw [parameter, htake, hdrop, h.formDecode_eq]
  rfl

/-- One name and one encoded value are read as that parameter and no other exactly when the
ampersands and plus signs of the value were escaped. -/
theorem parameters_pair_iff (hpercent : allowed percent = false) {name : List UInt8}
    (hname : Plain name) (value : List UInt8) :
    parameters (name ++ equals :: encode allowed value) = [(name, value)] ↔
      ¬ (ampersand ∈ value ∧ allowed ampersand = true) ∧
        ¬ (plus ∈ value ∧ allowed plus = true) := by
  have hnameAmp : ampersand ∉ name := fun hmem => (hname _ hmem).2.1 rfl
  by_cases hamp : ampersand ∈ value ∧ allowed ampersand = true
  · -- the first piece ends at the first ampersand, so its value is too short
    rcases hamp with ⟨hmem, hall⟩
    refine iff_of_false ?_ fun h => h.1 ⟨hmem, hall⟩
    rcases List.eq_append_cons_of_mem hmem with ⟨before, after, rfl, hbefore⟩
    have hencode : encode allowed (before ++ ampersand :: after) =
        encode allowed before ++ ampersand :: encode allowed after := by
      rw [encode_append, encode_cons, if_pos hall, List.singleton_append]
    have hfree : ampersand ∉ name ++ equals :: encode allowed before := by
      rw [List.mem_append, List.mem_cons, mem_encode_iff (by decide)]
      rintro (hin | heq | ⟨hin, _⟩)
      · exact hnameAmp hin
      · exact absurd heq (by decide)
      · exact hbefore hin
    have hsplit : (name ++ equals :: encode allowed (before ++ ampersand :: after)).splitOn
        ampersand = (name ++ equals :: encode allowed before) ::
          (encode allowed after).splitOn ampersand := by
      rw [hencode, ← List.cons_append, ← List.append_assoc,
        List.splitOn_append_cons_self_of_not_mem hfree]
    rw [parameters, hsplit, List.filter_cons_of_pos (by simp), List.map_cons,
      parameter_pair hname]
    intro h
    have hvalue := congrArg Prod.snd (List.cons.inj h).1
    have hlen := congrArg List.length hvalue
    rw [length_formDecode_encode hpercent, List.length_append, List.length_cons] at hlen
    omega
  · -- one piece, so only its plus signs matter
    have hfree : ampersand ∉ name ++ equals :: encode allowed value := by
      rw [List.mem_append, List.mem_cons, mem_encode_iff (by decide)]
      rintro (hin | heq | hin)
      · exact hnameAmp hin
      · exact absurd heq (by decide)
      · exact hamp hin
    have hone : parameters (name ++ equals :: encode allowed value) =
        [(name, formDecode (encode allowed value))] := by
      rw [parameters, List.splitOn_eq_singleton hfree, List.filter_cons_of_pos (by simp),
        List.filter_nil, List.map_cons, List.map_nil, parameter_pair hname]
    rw [hone, List.singleton_inj, Prod.mk.injEq, formDecode_encode_eq_self_iff hpercent]
    constructor
    · rintro ⟨_, hplus⟩
      exact ⟨hamp, hplus⟩
    · rintro ⟨_, hplus⟩
      exact ⟨rfl, hplus⟩

end PercentEncoding
