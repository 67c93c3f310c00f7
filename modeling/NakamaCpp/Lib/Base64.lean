import Mathlib

/-!
# Base64 and the parts of a token

A token is made of parts with separators in between.  The base64url encoding without padding,
and a decoder of the standard alphabet, which has `+` and `/` where base64url has `-` and `_`.

    s.splitOn "c"  =  the parts of s between the characters c                      (splitOn_char)
    standardDecode (urlEncode bs)  =  bs, if the text has neither `-` nor `_`, and else an error
                                                                       (standardDecode_urlEncode)
    standardDecode (standardEncode bs)  =  bs                     (standardDecode_standardEncode)
-/

namespace Base64

/-! ## Letters -/

/-- The letter of a number below 64, where `c62` and `c63` are the last two. -/
def letter (c62 c63 : Char) (n : Nat) : Char :=
  if n < 26 then Char.ofNat (65 + n)
  else if n < 52 then Char.ofNat (97 + (n - 26))
  else if n < 62 then Char.ofNat (48 + (n - 52))
  else if n = 62 then c62
  else c63

def urlLetter (n : Nat) : Char := letter '-' '_' n

/-- The number of a letter of the standard alphabet. -/
def standardValue (c : Char) : Option Nat :=
  if 'A' ≤ c ∧ c ≤ 'Z' then some (c.toNat - 65)
  else if 'a' ≤ c ∧ c ≤ 'z' then some (c.toNat - 97 + 26)
  else if '0' ≤ c ∧ c ≤ '9' then some (c.toNat - 48 + 52)
  else if c = '+' then some 62
  else if c = '/' then some 63
  else none

/-! ## Groups -/

/-- Bytes as groups of six bits. -/
def sextets : List UInt8 → List Nat
  | [] => []
  | [a] => [a.toNat / 4, a.toNat % 4 * 16]
  | [a, b] => [a.toNat / 4, a.toNat % 4 * 16 + b.toNat / 16, b.toNat % 16 * 4]
  | a :: b :: c :: bs =>
    a.toNat / 4 :: (a.toNat % 4 * 16 + b.toNat / 16) :: (b.toNat % 16 * 4 + c.toNat / 64) ::
      c.toNat % 64 :: sextets bs

/-- The bytes of groups of six bits; one group alone is less than a byte. -/
def octets : List Nat → Option (List UInt8)
  | [] => some []
  | [_] => none
  | [s, t] => some [UInt8.ofNat (s * 4 + t / 16)]
  | [s, t, u] => some [UInt8.ofNat (s * 4 + t / 16), UInt8.ofNat (t % 16 * 16 + u / 4)]
  | s :: t :: u :: v :: ss =>
    (octets ss).map fun bs =>
      UInt8.ofNat (s * 4 + t / 16) :: UInt8.ofNat (t % 16 * 16 + u / 4) ::
        UInt8.ofNat (u % 4 * 64 + v) :: bs

/-- RFC 7515, without padding. -/
def urlEncode (bs : List UInt8) : List Char := (sextets bs).map urlLetter

def standardLetter (n : Nat) : Char := letter '+' '/' n

/-- How many letters fill up the last group of three bytes. -/
def missing (n : Nat) : Nat := (3 - n % 3) % 3

/-- RFC 4648, with padding. -/
def standardEncode (bs : List UInt8) : List Char :=
  (sextets bs).map standardLetter ++ List.replicate (missing bs.length) '='

/-- A text that is filled up to a multiple of four letters, without what fills it up. -/
def dropPadding (cs : List Char) : List Char :=
  if cs.length % 4 = 0 then
    if ['=', '='] <:+ cs then cs.dropLast.dropLast
    else if ['='] <:+ cs then cs.dropLast
    else cs
  else cs

/-- The standard alphabet only, padding optional. -/
def standardDecode (cs : List Char) : Option (List UInt8) := do
  octets (← (dropPadding cs).mapM standardValue)

/-! ## Lemmas -/

theorem octets_sextets (bs : List UInt8) : octets (sextets bs) = some bs := by
  have hbyte : ∀ (b : UInt8) (n : Nat), n = b.toNat → UInt8.ofNat n = b := by
    rintro b n rfl
    exact UInt8.ofNat_toNat
  induction bs using sextets.induct with
  | case1 => rfl
  | case2 a =>
    have ha := a.toNat_lt
    show some [UInt8.ofNat _] = _
    rw [hbyte a _ (by omega)]
  | case3 a b =>
    have ha := a.toNat_lt
    have hb := b.toNat_lt
    show some [UInt8.ofNat _, UInt8.ofNat _] = _
    rw [hbyte a _ (by omega), hbyte b _ (by omega)]
  | case4 a b c bs ih =>
    have ha := a.toNat_lt
    have hb := b.toNat_lt
    have hc := c.toNat_lt
    rw [sextets, octets, ih, Option.map_some, hbyte a _ (by omega), hbyte b _ (by omega),
      hbyte c _ (by omega)]

theorem sextets_lt (bs : List UInt8) : ∀ n ∈ sextets bs, n < 64 := by
  induction bs using sextets.induct with
  | case1 =>
    intro n hn
    cases hn
  | case2 a =>
    have ha := a.toNat_lt
    simp only [sextets, List.forall_mem_cons, List.not_mem_nil, false_imp_iff, implies_true,
      and_true]
    omega
  | case3 a b =>
    have ha := a.toNat_lt
    have hb := b.toNat_lt
    simp only [sextets, List.forall_mem_cons, List.not_mem_nil, false_imp_iff, implies_true,
      and_true]
    omega
  | case4 a b c bs ih =>
    have ha := a.toNat_lt
    have hb := b.toNat_lt
    have hc := c.toNat_lt
    simp only [sextets, List.forall_mem_cons]
    exact ⟨by omega, by omega, by omega, by omega, ih⟩

/-- The two alphabets agree below 62. -/
theorem standardValue_urlLetter : ∀ n, n < 64 →
    standardValue (urlLetter n) = (if n < 62 then some n else none) ∧
    (urlLetter n = '-' ∨ urlLetter n = '_' ↔ ¬ n < 62) ∧ urlLetter n ≠ '=' ∧ urlLetter n ≠ '.' ∧
    (urlLetter n).toNat < 128 := by
  decide

/-- None of the two letters that only base64url has. -/
def Standard (cs : List Char) : Prop := ∀ c ∈ cs, c ≠ '-' ∧ c ≠ '_'

instance (cs : List Char) : Decidable (Standard cs) :=
  List.decidableBAll (fun c => c ≠ '-' ∧ c ≠ '_') cs

theorem standard_map_iff {ss : List Nat} (h : ∀ n ∈ ss, n < 64) :
    Standard (ss.map urlLetter) ↔ ∀ n ∈ ss, n < 62 := by
  unfold Standard
  rw [List.forall_mem_map]
  apply forall₂_congr
  intro n hn
  have hiff := (standardValue_urlLetter n (h n hn)).2.1
  rw [← not_or, hiff, not_not]

theorem mapM_standardValue {ss : List Nat} (h : ∀ n ∈ ss, n < 64) :
    (ss.map urlLetter).mapM standardValue =
      if Standard (ss.map urlLetter) then some ss else none := by
  simp only [standard_map_iff h]
  induction ss with
  | nil => rfl
  | cons n ss ih =>
    rw [List.forall_mem_cons] at h
    rw [List.map_cons, List.mapM_cons, ih h.2, (standardValue_urlLetter n h.1).1]
    have hiff : (∀ m ∈ n :: ss, m < 62) ↔ n < 62 ∧ ∀ m ∈ ss, m < 62 := List.forall_mem_cons
    by_cases hn : n < 62
    · by_cases hss : ∀ m ∈ ss, m < 62
      · rw [if_pos hn, if_pos hss, if_pos (hiff.2 ⟨hn, hss⟩)]
        rfl
      · rw [if_pos hn, if_neg hss, if_neg fun hall => hss (hiff.1 hall).2]
        rfl
    · rw [if_neg hn, if_neg fun hall => hn (hiff.1 hall).1]
      rfl

theorem dropPadding_of_not_mem {cs : List Char} (h : '=' ∉ cs) : dropPadding cs = cs := by
  have htwo : ¬ ['=', '='] <:+ cs := fun hs => h (hs.subset List.mem_cons_self)
  have hone : ¬ ['='] <:+ cs := fun hs => h (hs.subset List.mem_cons_self)
  unfold dropPadding
  rw [if_neg htwo, if_neg hone, ite_self]

/-- The letters of an encoded text. -/
theorem mem_urlEncode {bs : List UInt8} {c : Char} (h : c ∈ urlEncode bs) :
    c ≠ '=' ∧ c ≠ '.' ∧ c.toNat < 128 := by
  obtain ⟨n, hn, rfl⟩ := List.mem_map.1 h
  exact (standardValue_urlLetter n (sextets_lt bs n hn)).2.2

/-- **One alphabet read with the other.**  What is encoded by base64url is decoded when both
alphabets have its letters, and not accepted otherwise. -/
theorem standardDecode_urlEncode (bs : List UInt8) :
    standardDecode (urlEncode bs) = if Standard (urlEncode bs) then some bs else none := by
  have hpad : dropPadding (urlEncode bs) = urlEncode bs :=
    dropPadding_of_not_mem fun h => (mem_urlEncode h).1 rfl
  unfold standardDecode
  rw [hpad, urlEncode, mapM_standardValue (sextets_lt bs)]
  split
  · exact octets_sextets bs
  · rfl

/-! ## Padding -/

theorem standardValue_standardLetter : ∀ n, n < 64 →
    standardValue (standardLetter n) = some n ∧ standardLetter n ≠ '=' := by
  decide

theorem mapM_standardLetter {ss : List Nat} (h : ∀ n ∈ ss, n < 64) :
    (ss.map standardLetter).mapM standardValue = some ss := by
  induction ss with
  | nil => rfl
  | cons n ss ih =>
    rw [List.forall_mem_cons] at h
    rw [List.map_cons, List.mapM_cons, (standardValue_standardLetter n h.1).1, ih h.2]
    rfl

/-- Letters and padding are whole groups of four. -/
theorem length_standardEncode (bs : List UInt8) :
    ((sextets bs).length + missing bs.length) % 4 = 0 := by
  induction bs using sextets.induct with
  | case1 => rfl
  | case2 a => simp [sextets, missing]
  | case3 a b => simp [sextets, missing]
  | case4 a b c bs ih =>
    have hmissing : missing (a :: b :: c :: bs).length = missing bs.length := by
      simp only [missing, List.length_cons]
      omega
    rw [hmissing, sextets]
    simp only [List.length_cons]
    omega

theorem dropPadding_append {cs : List Char} (h : '=' ∉ cs) {k : Nat} (hk : k < 3)
    (hlen : (cs.length + k) % 4 = 0) : dropPadding (cs ++ List.replicate k '=') = cs := by
  have hgroups : (cs ++ List.replicate k '=').length % 4 = 0 := by
    rw [List.length_append, List.length_replicate]
    exact hlen
  rcases Nat.lt_or_ge k 1 with hzero | hpos
  · obtain rfl : k = 0 := by omega
    rw [List.replicate_zero, List.append_nil]
    exact dropPadding_of_not_mem h
  rcases Nat.lt_or_ge k 2 with hone | htwo
  · obtain rfl : k = 1 := by omega
    have hdouble : ¬ ['=', '='] <:+ cs ++ ['='] := by
      rintro ⟨t, ht⟩
      have hcons : (t ++ ['=']) ++ ['='] = cs ++ ['='] := by
        rw [List.append_assoc]
        exact ht
      have hcs := List.append_cancel_right hcons
      exact h (hcs ▸ List.mem_append_right t List.mem_cons_self)
    unfold dropPadding
    rw [if_pos hgroups, List.replicate_one, if_neg hdouble, if_pos (List.suffix_append cs ['=']),
      List.dropLast_concat]
  · obtain rfl : k = 2 := by omega
    have hsuffix : ['=', '='] <:+ cs ++ ['=', '='] := List.suffix_append cs _
    unfold dropPadding
    rw [if_pos hgroups]
    show (if ['=', '='] <:+ cs ++ ['=', '='] then _ else _) = _
    rw [if_pos hsuffix]
    have hsplit : cs ++ ['=', '='] = (cs ++ ['=']) ++ ['='] := by rw [List.append_assoc]; rfl
    show (cs ++ ['=', '=']).dropLast.dropLast = cs
    rw [hsplit, List.dropLast_concat, List.dropLast_concat]

/-- **Round trip**, of the standard alphabet with padding. -/
theorem standardDecode_standardEncode (bs : List UInt8) :
    standardDecode (standardEncode bs) = some bs := by
  have hlt := sextets_lt bs
  have hletters : '=' ∉ (sextets bs).map standardLetter := by
    intro hmem
    obtain ⟨n, hn, he⟩ := List.mem_map.1 hmem
    exact (standardValue_standardLetter n (hlt n hn)).2 he
  have hlen : (((sextets bs).map standardLetter).length + missing bs.length) % 4 = 0 := by
    rw [List.length_map]
    exact length_standardEncode bs
  have hk : missing bs.length < 3 := Nat.mod_lt _ (by decide)
  unfold standardDecode standardEncode
  rw [dropPadding_append hletters hk hlen, mapM_standardLetter hlt]
  exact octets_sextets bs

/-! ## Parts -/

open String

/-- The loop of `String.splitOn` for one character, with the part read so far in `m`. -/
theorem splitOnAux_single (c : Char) (l m r : List Char) (acc : List String) :
    splitOnAux (ofList (l ++ m ++ r)) (ofList [c]) ⟨utf8Len l⟩ ⟨utf8Len l + utf8Len m⟩ 0 acc =
      acc.reverse ++ (List.splitOnPPrepend (· == c) r m.reverse).map ofList := by
  unfold splitOnAux
  cases r with
  | nil =>
    have h : Pos.Raw.atEnd (ofList (l ++ m ++ [])) ⟨utf8Len l + utf8Len m⟩ = true := by
      rw [atEnd_iff, rawEndPos_ofList, List.append_nil, utf8Len_append]
      exact Nat.le_refl _
    rw [if_pos h]
    show (_ :: acc).reverse = _
    rw [extract_of_valid l m [], List.reverse_cons, List.splitOnPPrepend_nil, List.reverse_reverse]
    rfl
  | cons d r =>
    have hpos : 0 < utf8Len (d :: r) := by
      rw [utf8Len_cons]
      have := d.utf8Size_pos
      omega
    have h : ¬ Pos.Raw.atEnd (ofList (l ++ m ++ d :: r)) ⟨utf8Len l + utf8Len m⟩ = true := by
      rw [atEnd_iff, rawEndPos_ofList, utf8Len_append, utf8Len_append]
      intro hle
      have : utf8Len l + utf8Len m + utf8Len (d :: r) ≤ utf8Len l + utf8Len m := hle
      omega
    have hg := get_of_valid (l ++ m) (d :: r)
    have hn := next_of_valid (l ++ m) d r
    rw [utf8Len_append] at hg hn
    have hsep : Pos.Raw.get (ofList [c]) 0 = c := get_of_valid [] [c]
    have hsepn : Pos.Raw.next (ofList [c]) 0 = ⟨0 + c.utf8Size⟩ := next_of_valid [] c []
    have hend : Pos.Raw.atEnd (ofList [c]) ⟨0 + c.utf8Size⟩ = true := by
      rw [atEnd_iff, rawEndPos_ofList]
      show utf8Len [c] ≤ 0 + c.utf8Size
      rw [utf8Len_cons, utf8Len_nil]
    have hback : Pos.Raw.unoffsetBy ⟨utf8Len l + utf8Len m + c.utf8Size⟩ ⟨0 + c.utf8Size⟩ =
        ⟨utf8Len l + utf8Len m⟩ := by
      show Pos.Raw.mk (utf8Len l + utf8Len m + c.utf8Size - (0 + c.utf8Size)) = _
      rw [Nat.zero_add, Nat.add_sub_cancel]
    have hstay : Pos.Raw.unoffsetBy ⟨utf8Len l + utf8Len m⟩ 0 = ⟨utf8Len l + utf8Len m⟩ := rfl
    rw [if_neg h, hg, hsep, List.headD_cons, List.splitOnPPrepend_cons_eq_if]
    dsimp only
    by_cases hc : d = c
    · subst hc
      have ih := splitOnAux_single d (l ++ m ++ [d]) [] r (ofList m :: acc)
      have hlen : utf8Len (l ++ m ++ [d]) = utf8Len l + utf8Len m + d.utf8Size := by
        rw [utf8Len_append, utf8Len_append, utf8Len_cons, utf8Len_nil, Nat.zero_add]
      have htext : l ++ m ++ [d] ++ [] ++ r = l ++ m ++ d :: r := by simp
      have hself : (d == d) = true := beq_self_eq_true d
      rw [htext, hlen, utf8Len_nil, Nat.add_zero, List.reverse_nil] at ih
      rw [if_pos hself, if_pos hself, hn, hsepn, if_pos hend, hback, extract_of_valid, ih,
        List.reverse_cons, List.reverse_reverse, List.append_assoc, List.map_cons]
      rfl
    · have ih := splitOnAux_single c l (m ++ [d]) r acc
      have hlen : utf8Len l + utf8Len (m ++ [d]) = utf8Len l + utf8Len m + d.utf8Size := by
        rw [utf8Len_append, utf8Len_cons, utf8Len_nil, Nat.zero_add, Nat.add_assoc]
      have htext : l ++ (m ++ [d]) ++ r = l ++ m ++ d :: r := by simp
      have hne : ¬ (d == c) = true := by simpa using hc
      rw [htext, hlen, List.reverse_append, List.reverse_singleton, List.singleton_append] at ih
      rw [if_neg hne, if_neg hne, hstay, hn, ih]
termination_by r.length

/-- `String.splitOn` of one character splits the list of characters. -/
theorem splitOn_char (s : String) (c : Char) :
    s.splitOn (ofList [c]) = (s.toList.splitOn c).map ofList := by
  have h := splitOnAux_single c [] [] s.toList []
  have hne : ¬ (ofList [c] == "") = true := by
    rw [beq_iff_eq]
    intro he
    have := congrArg String.toList he
    simp at this
  unfold String.splitOn
  rw [if_neg hne]
  simp only [List.nil_append, ofList_toList, List.reverse_nil] at h
  exact h

end Base64
