import NakamaCpp.Lib.Transcode

/-!
# Percent-encoded text and query strings

A query string is a list of parameters, names and values percent-encoded, joined by ampersands.
Reading one is the inverse of writing one when no separator is left in a name or a value.

    the parameters ps decode to qs  →  parameters (joinQuery ps) = some qs      (parameters_joinQuery)
-/

namespace Query

open Transcode JsonText

/-! ## Percent-encoded text -/

/-- The bytes of an ASCII text. -/
def bytes (cs : List Char) : List UInt8 := cs.map fun c => UInt8.ofNat c.toNat

/-- The bytes that an encoded text stands for. -/
def decode (cs : List Char) : Option (List UInt8) := percentDecodeBytes (bytes cs)

def isHexDigit (c : Char) : Bool := (hexValue c).isSome

/-- A text of unreserved characters and of `%` with two hexadecimal digits. -/
inductive PercentEncoded : List Char → Prop
  | nil : PercentEncoded []
  | unreserved {c : Char} {cs : List Char} : isUnreserved c = true → PercentEncoded cs →
      PercentEncoded (c :: cs)
  | triplet {h l : Char} {cs : List Char} : isHexDigit h = true → isHexDigit l = true →
      PercentEncoded cs → PercentEncoded ('%' :: h :: l :: cs)

theorem PercentEncoded.append {as bs : List Char} (ha : PercentEncoded as)
    (hb : PercentEncoded bs) : PercentEncoded (as ++ bs) := by
  induction ha with
  | nil => exact hb
  | unreserved hc _ ih => exact .unreserved hc ih
  | triplet hh hl _ ih => exact .triplet hh hl ih

theorem percentEncoded_of_unreserved {cs : List Char} (h : ∀ c ∈ cs, isUnreserved c = true) :
    PercentEncoded cs := by
  induction cs with
  | nil => exact .nil
  | cons c cs ih =>
    rw [List.forall_mem_cons] at h
    exact .unreserved h.1 (ih h.2)

theorem isUnreserved_of_isHexDigit {c : Char} (h : isHexDigit c = true) :
    isUnreserved c = true := by
  have hlt : ∀ n, n < 128 → isHexDigit (Char.ofNat n) = true → isUnreserved (Char.ofNat n) = true := by
    decide
  have hle : ∀ d : Char, c ≤ d → c.toNat ≤ d.toNat := fun d hd => hd
  have hc : c.toNat < 128 := by
    unfold isHexDigit hexValue at h
    split_ifs at h with h0 h1 h2
    · exact lt_of_le_of_lt (hle '9' h0.2) (by decide)
    · exact lt_of_le_of_lt (hle 'f' h1.2) (by decide)
    · exact lt_of_le_of_lt (hle 'F' h2.2) (by decide)
    · cases h
  have := hlt c.toNat hc
  rw [Char.ofNat_toNat] at this
  exact this h

theorem PercentEncoded.unreserved_or {cs : List Char} (h : PercentEncoded cs) :
    ∀ c ∈ cs, isUnreserved c = true ∨ c = '%' := by
  induction h with
  | nil => intro c hc; cases hc
  | unreserved hc _ ih =>
    rw [List.forall_mem_cons]
    exact ⟨.inl hc, ih⟩
  | triplet hh hl _ ih =>
    rw [List.forall_mem_cons, List.forall_mem_cons, List.forall_mem_cons]
    exact ⟨.inr rfl, .inl (isUnreserved_of_isHexDigit hh), .inl (isUnreserved_of_isHexDigit hl), ih⟩

/-- An encoded text has no separator. -/
theorem PercentEncoded.not_mem {cs : List Char} (h : PercentEncoded cs) {d : Char}
    (hu : isUnreserved d = false) (hp : d ≠ '%') : d ∉ cs := by
  intro hd
  rcases h.unreserved_or d hd with hc | hc
  · rw [hu] at hc
    cases hc
  · exact hp hc

/-! ## Decoding -/

theorem toNat_ofNat_byte : ∀ n, n < 256 → (Char.ofNat n).toNat = n := by decide +kernel

theorem ofNat_toNat_byte {c : Char} (h : c.toNat < 256) :
    Char.ofNat (UInt8.ofNat c.toNat).toNat = c := by
  rw [UInt8.toNat_ofNat_of_lt' h, Char.ofNat_toNat]

theorem byte_ne_percent {c : Char} (h : c.toNat < 256) (hne : c ≠ '%') :
    UInt8.ofNat c.toNat ≠ 0x25 := by
  intro he
  apply hne
  rw [← ofNat_toNat_byte h, he]
  rfl

theorem decode_cons {c : Char} (h : c.toNat < 256) (hne : c ≠ '%') (cs : List Char) :
    decode (c :: cs) = (decode cs).map fun ds => UInt8.ofNat c.toNat :: ds := by
  show percentDecodeBytes (UInt8.ofNat c.toNat :: bytes cs) = _
  unfold percentDecodeBytes
  rw [if_neg (byte_ne_percent h hne)]
  rfl

theorem decode_triplet {h l : Char} {a b : Nat} (hh : hexValue h = some a) (hl : hexValue l = some b)
    (cs : List Char) :
    decode ('%' :: h :: l :: cs) = (decode cs).map fun ds => UInt8.ofNat (a * 16 + b) :: ds := by
  have hdigit : ∀ {c : Char} {n : Nat}, hexValue c = some n → c.toNat < 256 := by
    intro c n hc
    have hhex : isHexDigit c = true := by
      rw [isHexDigit, hc]
      rfl
    have := (isUnreserved_lt (isUnreserved_of_isHexDigit hhex)).1
    omega
  show percentDecodeBytes (0x25 :: UInt8.ofNat h.toNat :: UInt8.ofNat l.toNat :: bytes cs) = _
  rw [percentDecodeBytes, if_pos rfl]
  simp only [ofNat_toNat_byte (hdigit hh), ofNat_toNat_byte (hdigit hl), hh, hl, Option.bind_eq_bind,
    Option.bind_some, decode]
  cases percentDecodeBytes (bytes cs) <;> rfl

/-! ## Parameters -/

def joinParameter (p : List Char × List Char) : List Char := p.1 ++ '=' :: p.2

def joinQuery (ps : List (List Char × List Char)) : List Char :=
  ['&'].intercalate (ps.map joinParameter)

/-- The name up to the first equals sign, and the value after it. -/
def splitParameter (cs : List Char) : List Char × List Char :=
  (cs.takeWhile fun c => c != '=', (cs.dropWhile fun c => c != '=').tail)

def splitQuery (cs : List Char) : List (List Char × List Char) :=
  (cs.splitOn '&').map splitParameter

/-- The decoded parameters of a query string. -/
def parameters (cs : List Char) : Option (List (List UInt8 × List UInt8)) :=
  (splitQuery cs).mapM fun p => do return (← decode p.1, ← decode p.2)

theorem splitParameter_joinParameter {p : List Char × List Char} (h : '=' ∉ p.1) :
    splitParameter (joinParameter p) = p := by
  have hname : ∀ c ∈ p.1, (c != '=') = true := by
    intro c hc
    rw [bne_iff_ne]
    rintro rfl
    exact h hc
  unfold splitParameter joinParameter
  rw [List.takeWhile_append_of_pos hname, List.dropWhile_append_of_pos hname,
    List.takeWhile_cons_of_neg (by decide), List.dropWhile_cons_of_neg (by decide),
    List.append_nil, List.tail_cons]

/-- No separator is left in the name or in the value. -/
def Separable (p : List Char × List Char) : Prop := '=' ∉ p.1 ∧ '&' ∉ p.1 ∧ '&' ∉ p.2

theorem splitQuery_joinQuery {ps : List (List Char × List Char)} (hne : ps ≠ [])
    (h : ∀ p ∈ ps, Separable p) : splitQuery (joinQuery ps) = ps := by
  have hnot : ∀ part ∈ ps.map joinParameter, '&' ∉ part := by
    intro part hpart
    obtain ⟨p, hp, rfl⟩ := List.mem_map.1 hpart
    obtain ⟨-, hname, hvalue⟩ := h p hp
    unfold joinParameter
    rw [List.mem_append, List.mem_cons, not_or, not_or]
    exact ⟨hname, by decide, hvalue⟩
  have hback : ∀ p ∈ ps, splitParameter (joinParameter p) = p :=
    fun p hp => splitParameter_joinParameter (h p hp).1
  unfold splitQuery joinQuery
  rw [List.splitOn_intercalate '&' hnot (by simpa using hne), List.map_map]
  exact (List.map_congr_left hback).trans (List.map_id' ps)

/-- The parameter is decoded to the given name and value. -/
def Decodes (p : List Char × List Char) (q : List UInt8 × List UInt8) : Prop :=
  decode p.1 = some q.1 ∧ decode p.2 = some q.2

theorem mapM_decode {ps : List (List Char × List Char)} {qs : List (List UInt8 × List UInt8)}
    (h : List.Forall₂ Decodes ps qs) :
    (ps.mapM fun p => do return (← decode p.1, ← decode p.2)) = some qs := by
  induction h with
  | nil => rfl
  | @cons p q ps qs hp _ ih =>
    rw [List.mapM_cons, ih, hp.1, hp.2]
    rfl

/-- **Round trip.**  Reading a query string decodes the parameters it was made of. -/
theorem parameters_joinQuery {ps : List (List Char × List Char)}
    {qs : List (List UInt8 × List UInt8)} (hne : ps ≠ []) (h : ∀ p ∈ ps, Separable p)
    (hdecode : List.Forall₂ Decodes ps qs) : parameters (joinQuery ps) = some qs := by
  rw [parameters, splitQuery_joinQuery hne h, mapM_decode hdecode]

end Query
