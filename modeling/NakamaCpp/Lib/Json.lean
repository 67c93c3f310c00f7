import NakamaCpp.Lib.Decimal

/-!
# JSON texts: writer, parser, round trip

The grammar is that of RFC 8259.  `write` is the compact writer that most C++
libraries use: no white space, `"`, `\` and the control characters escaped,
everything else as it is.  `parse` accepts every JSON text, `\u` escapes with
surrogate pairs included.  An integer and a number with a fraction or an
exponent are kept apart; `dec m e` is `m · 10 ^ e`.

    parse (text j) = some j                                           (parse_text)

`value`, `items` and `members` take fuel; the length of the text is enough.
-/

namespace JsonText

inductive Json
  | null
  | bool (b : Bool)
  | int (n : Int)
  | dec (m e : Int)
  | str (s : String)
  | arr (items : List Json)
  | obj (members : List (String × Json))

/-! ## Writer -/

def hexDigit (n : Nat) : Char := if n < 10 then Char.ofNat (48 + n) else Char.ofNat (55 + n)

/-- One character of a string. -/
def escape (c : Char) : List Char :=
  if c = '"' then ['\\', '"']
  else if c = '\\' then ['\\', '\\']
  else if c = '\x08' then ['\\', 'b']
  else if c = '\x0c' then ['\\', 'f']
  else if c = '\n' then ['\\', 'n']
  else if c = '\r' then ['\\', 'r']
  else if c = '\t' then ['\\', 't']
  else if c.toNat < 32 then ['\\', 'u', '0', '0', hexDigit (c.toNat / 16), hexDigit (c.toNat % 16)]
  else [c]

/-- The characters of a string and its closing quote. -/
def writeString (cs : List Char) : List Char := cs.flatMap escape ++ ['"']

def writeInt (n : Int) : List Char := (toString n).toList

mutual

def write : Json → List Char
  | .null => ['n', 'u', 'l', 'l']
  | .bool true => ['t', 'r', 'u', 'e']
  | .bool false => ['f', 'a', 'l', 's', 'e']
  | .int n => writeInt n
  | .dec m e => writeInt m ++ 'e' :: writeInt e
  | .str s => '"' :: writeString s.toList
  | .arr [] => ['[', ']']
  | .arr (j :: js) => '[' :: (write j ++ writeItems js)
  | .obj [] => ['{', '}']
  | .obj ((n, j) :: ms) => '{' :: '"' :: (writeString n.toList ++ ':' :: (write j ++ writeMembers ms))

/-- The items that follow the first one, and the closing bracket. -/
def writeItems : List Json → List Char
  | [] => [']']
  | j :: js => ',' :: (write j ++ writeItems js)

/-- The members that follow the first one, and the closing brace. -/
def writeMembers : List (String × Json) → List Char
  | [] => ['}']
  | (n, j) :: ms => ',' :: '"' :: (writeString n.toList ++ ':' :: (write j ++ writeMembers ms))

end

def text (j : Json) : String := String.ofList (write j)

/-! ## Parser -/

def isWhite (c : Char) : Bool := c == ' ' || c == '\t' || c == '\n' || c == '\r'

def skipWhite (cs : List Char) : List Char := cs.dropWhile isWhite

def hexValue (c : Char) : Option Nat :=
  if '0' ≤ c ∧ c ≤ '9' then some (c.toNat - 48)
  else if 'a' ≤ c ∧ c ≤ 'f' then some (c.toNat - 87)
  else if 'A' ≤ c ∧ c ≤ 'F' then some (c.toNat - 55)
  else none

def hex4 (a b c d : Char) : Option Nat := do
  let a ← hexValue a
  let b ← hexValue b
  let c ← hexValue c
  let d ← hexValue d
  some (((a * 16 + b) * 16 + c) * 16 + d)

/-- What follows a backslash: the character it stands for, and the rest. -/
def unescape : List Char → Option (Char × List Char)
  | '"' :: cs => some ('"', cs)
  | '\\' :: cs => some ('\\', cs)
  | '/' :: cs => some ('/', cs)
  | 'b' :: cs => some ('\x08', cs)
  | 'f' :: cs => some ('\x0c', cs)
  | 'n' :: cs => some ('\n', cs)
  | 'r' :: cs => some ('\r', cs)
  | 't' :: cs => some ('\t', cs)
  | 'u' :: a :: b :: c :: d :: cs => do
    let hi ← hex4 a b c d
    if 0xD800 ≤ hi ∧ hi < 0xDC00 then
      match cs with
      | '\\' :: 'u' :: a :: b :: c :: d :: cs =>
        let lo ← hex4 a b c d
        if 0xDC00 ≤ lo ∧ lo < 0xE000 then
          some (Char.ofNat (0x10000 + (hi - 0xD800) * 0x400 + (lo - 0xDC00)), cs)
        else none
      | _ => none
    else if 0xDC00 ≤ hi ∧ hi < 0xE000 then none
    else some (Char.ofNat hi, cs)
  | _ => none

/-- The characters of a string up to its closing quote. -/
def string : Nat → List Char → Option (List Char × List Char)
  | 0, _ => none
  | _ + 1, [] => none
  | fuel + 1, c :: cs =>
    if c = '"' then some ([], cs)
    else if c = '\\' then do
      let (c, cs) ← unescape cs
      let (s, cs) ← string fuel cs
      some (c :: s, cs)
    else if c.toNat < 32 then none
    else do
      let (s, cs) ← string fuel cs
      some (c :: s, cs)

/-- An optional sign, whether it is a minus, and the rest. -/
def sign (plus : Bool) : List Char → Bool × List Char
  | '-' :: cs => (true, cs)
  | '+' :: cs => if plus then (false, cs) else (false, '+' :: cs)
  | cs => (false, cs)

/-- A run of at least one digit. -/
def digits (cs : List Char) : Option (List Char × List Char) :=
  if cs.takeWhile Char.isDigit = [] then none
  else some (cs.takeWhile Char.isDigit, cs.dropWhile Char.isDigit)

def signed (neg : Bool) (ds : List Char) : Int :=
  if neg then -(Nat.ofDigitChars 10 ds 0 : Nat) else (Nat.ofDigitChars 10 ds 0 : Nat)

/-- The digits behind a decimal point, if there is one. -/
def fraction : List Char → Option (List Char × List Char)
  | '.' :: cs => digits cs
  | cs => some ([], cs)

/-- The exponent, if there is one. -/
def exponent : List Char → Option (Option Int × List Char)
  | c :: cs =>
    if c = 'e' ∨ c = 'E' then do
      let (neg, cs) := sign true cs
      let (ds, cs) ← digits cs
      some (some (signed neg ds), cs)
    else some (none, c :: cs)
  | [] => some (none, [])

/-- A number: no leading zero, a fraction and an exponent may follow. -/
def number (cs : List Char) : Option (Json × List Char) := do
  let (neg, cs) := sign false cs
  let (ds, cs) ← digits cs
  if ds.head? = some '0' ∧ ds ≠ ['0'] then none
  let (fs, cs) ← fraction cs
  let (e, cs) ← exponent cs
  if fs = [] ∧ e = none then some (.int (signed neg ds), cs)
  else some (.dec (signed neg (ds ++ fs)) (e.getD 0 - fs.length), cs)

mutual

def value : Nat → List Char → Option (Json × List Char)
  | 0, _ => none
  | fuel + 1, cs =>
    match skipWhite cs with
    | '"' :: cs => do
      let (s, cs) ← string fuel cs
      some (.str (String.ofList s), cs)
    | '[' :: cs =>
      match skipWhite cs with
      | ']' :: cs => some (.arr [], cs)
      | cs => do
        let (j, cs) ← value fuel cs
        let (js, cs) ← items fuel cs
        some (.arr (j :: js), cs)
    | '{' :: cs =>
      match skipWhite cs with
      | '}' :: cs => some (.obj [], cs)
      | cs => do
        let (m, cs) ← member fuel cs
        let (ms, cs) ← members fuel cs
        some (.obj (m :: ms), cs)
    | 'n' :: 'u' :: 'l' :: 'l' :: cs => some (.null, cs)
    | 't' :: 'r' :: 'u' :: 'e' :: cs => some (.bool true, cs)
    | 'f' :: 'a' :: 'l' :: 's' :: 'e' :: cs => some (.bool false, cs)
    | cs => number cs

/-- What follows an item of an array. -/
def items : Nat → List Char → Option (List Json × List Char)
  | 0, _ => none
  | fuel + 1, cs =>
    match skipWhite cs with
    | ']' :: cs => some ([], cs)
    | ',' :: cs => do
      let (j, cs) ← value fuel cs
      let (js, cs) ← items fuel cs
      some (j :: js, cs)
    | _ => none

/-- A name, a colon and a value. -/
def member : Nat → List Char → Option ((String × Json) × List Char)
  | 0, _ => none
  | fuel + 1, cs =>
    match skipWhite cs with
    | '"' :: cs => do
      let (n, cs) ← string fuel cs
      match skipWhite cs with
      | ':' :: cs => do
        let (j, cs) ← value fuel cs
        some ((String.ofList n, j), cs)
      | _ => none
    | _ => none

/-- What follows a member of an object. -/
def members : Nat → List Char → Option (List (String × Json) × List Char)
  | 0, _ => none
  | fuel + 1, cs =>
    match skipWhite cs with
    | '}' :: cs => some ([], cs)
    | ',' :: cs => do
      let (m, cs) ← member fuel cs
      let (ms, cs) ← members fuel cs
      some (m :: ms, cs)
    | _ => none

end

/-- The value of a JSON text, with white space around it. -/
def parse (s : String) : Option Json :=
  match value (s.toList.length + 1) s.toList with
  | some (j, cs) => if skipWhite cs = [] then some j else none
  | none => none

/-! ## Strings -/

theorem hexDigit_facts : ∀ n, n < 16 → hexValue (hexDigit n) = some n := by decide

/-- What `escape` writes behind a backslash is read back. -/
theorem unescape_control : ∀ n, n < 32 → ∀ cs : List Char,
    unescape ('u' :: '0' :: '0' :: hexDigit (n / 16) :: hexDigit (n % 16) :: cs) =
      some (Char.ofNat n, cs) := by
  intro n hn cs
  have h0 : hexValue '0' = some 0 := by decide
  have hhi := hexDigit_facts (n / 16) (by omega)
  have hlo := hexDigit_facts (n % 16) (by omega)
  have hv : hex4 '0' '0' (hexDigit (n / 16)) (hexDigit (n % 16)) = some n := by
    unfold hex4
    rw [h0, hhi, hlo]
    show some (((0 * 16 + 0) * 16 + n / 16) * 16 + n % 16) = some n
    congr 1
    omega
  unfold unescape
  simp only [hv, Option.bind_eq_bind, Option.bind_some]
  rw [if_neg (by omega), if_neg (by omega)]

/-- One written character is read back. -/
theorem string_escape {fuel : Nat} {rest s cs : List Char} (c : Char)
    (h : string fuel rest = some (s, cs)) :
    string (fuel + 1) (escape c ++ rest) = some (c :: s, cs) := by
  have hq : ∀ (d : Char) (ds : List Char), unescape (d :: (ds ++ rest)) = some (c, rest) →
      string (fuel + 1) ('\\' :: d :: ds ++ rest) = some (c :: s, cs) := by
    intro d ds hd
    rw [show '\\' :: d :: ds ++ rest = '\\' :: d :: (ds ++ rest) from rfl, string,
      if_neg (by decide), if_pos rfl, hd]
    simp only [Option.bind_eq_bind, Option.bind_some, h]
  unfold escape
  by_cases h1 : c = '"'
  · subst h1; exact hq '"' [] rfl
  by_cases h2 : c = '\\'
  · subst h2; exact hq '\\' [] rfl
  by_cases h3 : c = '\x08'
  · subst h3; exact hq 'b' [] rfl
  by_cases h4 : c = '\x0c'
  · subst h4; exact hq 'f' [] rfl
  by_cases h5 : c = '\n'
  · subst h5; exact hq 'n' [] rfl
  by_cases h6 : c = '\r'
  · subst h6; exact hq 'r' [] rfl
  by_cases h7 : c = '\t'
  · subst h7; exact hq 't' [] rfl
  rw [if_neg h1, if_neg h2, if_neg h3, if_neg h4, if_neg h5, if_neg h6, if_neg h7]
  by_cases h8 : c.toNat < 32
  · rw [if_pos h8]
    refine hq 'u' _ ?_
    have := unescape_control c.toNat h8 rest
    rwa [Char.ofNat_toNat] at this
  · rw [if_neg h8]
    rw [show [c] ++ rest = c :: rest from rfl, string, if_neg h1, if_neg h2, if_neg h8, h]
    rfl

theorem writeString_cons (c : Char) (cs : List Char) :
    writeString (c :: cs) = escape c ++ writeString cs := by
  unfold writeString
  rw [List.flatMap_cons, List.append_assoc]

theorem string_writeString (cs : List Char) (rest : List Char) :
    ∀ fuel, cs.length < fuel → string fuel (writeString cs ++ rest) = some (cs, rest) := by
  induction cs with
  | nil =>
    intro fuel h
    obtain ⟨f, rfl⟩ : ∃ f, fuel = f + 1 := ⟨fuel - 1, by simp only [List.length_nil] at h; omega⟩
    rfl
  | cons c cs ih =>
    intro fuel h
    rw [List.length_cons] at h
    obtain ⟨f, rfl⟩ : ∃ f, fuel = f + 1 := ⟨fuel - 1, by omega⟩
    rw [writeString_cons, List.append_assoc]
    exact string_escape c (ih f (by omega))

theorem length_escape_pos (c : Char) : 0 < (escape c).length := by
  unfold escape
  repeat' split
  all_goals exact Nat.succ_pos _

theorem length_lt_writeString (cs : List Char) : cs.length < (writeString cs).length := by
  induction cs with
  | nil => exact Nat.zero_lt_one
  | cons c cs ih =>
    rw [writeString_cons, List.length_append, List.length_cons]
    have := length_escape_pos c
    omega

/-! ## Numbers -/

/-- What may follow a number. -/
def NumberEnd : List Char → Prop
  | [] => True
  | c :: _ => c.isDigit = false ∧ c ≠ '.' ∧ c ≠ 'e' ∧ c ≠ 'E'

/-- What may follow a run of digits. -/
def DigitsEnd : List Char → Prop
  | [] => True
  | c :: _ => c.isDigit = false

theorem NumberEnd.digitsEnd {rest : List Char} (h : NumberEnd rest) : DigitsEnd rest := by
  cases rest with
  | nil => trivial
  | cons c cs => exact h.1

theorem digits_append {ds rest : List Char} (hne : ds ≠ []) (hd : ∀ c ∈ ds, c.isDigit = true)
    (hr : DigitsEnd rest) : digits (ds ++ rest) = some (ds, rest) := by
  have ht : (ds ++ rest).takeWhile Char.isDigit = ds := by
    rw [List.takeWhile_append_of_pos hd]
    cases rest with
    | nil => rw [List.takeWhile_nil, List.append_nil]
    | cons c cs => rw [List.takeWhile_cons_of_neg (by rw [hr]; decide), List.append_nil]
  have hdr : (ds ++ rest).dropWhile Char.isDigit = rest := by
    rw [List.dropWhile_append_of_pos hd]
    cases rest with
    | nil => rfl
    | cons c cs => exact List.dropWhile_cons_of_neg (by rw [hr]; decide)
  unfold digits
  rw [ht, hdr, if_neg hne]

theorem digits_toDigits (n : Nat) {rest : List Char} (hr : DigitsEnd rest) :
    digits (Nat.toDigits 10 n ++ rest) = some (Nat.toDigits 10 n, rest) :=
  digits_append Nat.toDigits_ne_nil
    (fun _ hc => Nat.isDigit_of_mem_toDigits (by decide) (by decide) hc) hr

/-- No written number but 0 starts with a 0. -/
theorem head_toDigits (n : Nat) (h : (Nat.toDigits 10 n).head? = some '0') :
    Nat.toDigits 10 n = ['0'] := by
  induction n using Nat.strongRecOn with
  | ind n ih =>
    by_cases hlt : n < 10
    · rw [Nat.toDigits_of_lt_base hlt] at h ⊢
      rw [List.head?_cons] at h
      rw [Option.some.inj h]
    · rw [Nat.toDigits_of_base_le (by decide) (by omega)] at h
      rw [List.head?_append_of_ne_nil _ Nat.toDigits_ne_nil] at h
      have hz := ih (n / 10) (by omega) h
      have h0 : Nat.ofDigitChars 10 (Nat.toDigits 10 (n / 10)) 0 = n / 10 :=
        Nat.ofDigitChars_ten_toDigits
      rw [hz] at h0
      have : (0 : Nat) = n / 10 := h0
      omega

theorem signed_toDigits (n : Int) : signed (decide (n < 0)) (Nat.toDigits 10 n.natAbs) = n := by
  unfold signed
  rw [Nat.ofDigitChars_ten_toDigits]
  by_cases h : n < 0
  · rw [if_pos (by simpa using h)]; omega
  · rw [if_neg (by simpa using h)]; omega

theorem writeInt_eq (n : Int) :
    writeInt n = (if n < 0 then ['-'] else []) ++ Nat.toDigits 10 n.natAbs := by
  have := CppStd.toList_toString n
  unfold writeInt
  rw [this]
  split <;> rfl

theorem sign_digit (plus : Bool) {c : Char} (h : c.isDigit = true) (cs : List Char) :
    sign plus (c :: cs) = (false, c :: cs) := by
  unfold sign
  split
  · next heq => rw [(List.cons.inj heq).1] at h; exact absurd h (by decide)
  · next heq => rw [(List.cons.inj heq).1] at h; exact absurd h (by decide)
  · rfl

/-- Sign and digits of a written integer. -/
theorem sign_writeInt (plus : Bool) (n : Int) (rest : List Char) :
    sign plus (writeInt n ++ rest) = (decide (n < 0), Nat.toDigits 10 n.natAbs ++ rest) := by
  rw [writeInt_eq]
  by_cases h : n < 0
  · rw [if_pos h, decide_eq_true h]; rfl
  · rw [if_neg h, decide_eq_false h, List.nil_append]
    obtain ⟨c, cs, hcs⟩ := List.exists_cons_of_ne_nil (Nat.toDigits_ne_nil (n := n.natAbs) (b := 10))
    have hc : c.isDigit = true :=
      Nat.isDigit_of_mem_toDigits (b := 10) (n := n.natAbs) (by decide) (by decide)
        (by rw [hcs]; exact List.mem_cons_self)
    rw [hcs]
    exact sign_digit plus hc _

theorem number_writeInt (n : Int) {rest : List Char} (hr : NumberEnd rest) :
    number (writeInt n ++ rest) = some (.int n, rest) := by
  have hf : fraction rest = some ([], rest) := by
    unfold fraction
    split
    · next heq => exact absurd rfl hr.2.1
    · rfl
  have he : exponent rest = some (none, rest) := by
    cases rest with
    | nil => rfl
    | cons c cs => exact if_neg (by rintro (rfl | rfl); exacts [hr.2.2.1 rfl, hr.2.2.2 rfl])
  unfold number
  rw [sign_writeInt]
  simp only [digits_toDigits _ hr.digitsEnd, Option.bind_eq_bind, Option.bind_some]
  rw [if_neg (fun h => h.2 (head_toDigits _ h.1))]
  simp only [hf, he, Option.bind_some, and_self, if_true, signed_toDigits]

theorem number_dec (m e : Int) {rest : List Char} (hr : NumberEnd rest) :
    number (writeInt m ++ 'e' :: (writeInt e ++ rest)) = some (.dec m e, rest) := by
  have he : exponent ('e' :: (writeInt e ++ rest)) = some (some e, rest) := by
    rw [exponent, if_pos (Or.inl rfl), sign_writeInt]
    simp only [digits_toDigits _ hr.digitsEnd, Option.bind_eq_bind, Option.bind_some, signed_toDigits]
  have hend : DigitsEnd ('e' :: (writeInt e ++ rest)) := (by decide : Char.isDigit 'e' = false)
  unfold number
  rw [sign_writeInt]
  simp only [digits_toDigits _ hend, Option.bind_eq_bind, Option.bind_some]
  rw [if_neg (fun h => h.2 (head_toDigits _ h.1))]
  simp [fraction, he, signed_toDigits]

/-! ## Values -/

theorem skipWhite_cons {c : Char} (h : isWhite c = false) (cs : List Char) :
    skipWhite (c :: cs) = c :: cs :=
  List.dropWhile_cons_of_neg (by rw [h]; decide)

/-- A written number starts with a minus or a digit, and so with none of these. -/
theorem numberStart_ne {c : Char} (h : c = '-' ∨ c.isDigit = true) :
    ∀ d ∈ ['"', '[', ']', '{', 'n', 't', 'f', ' ', '\t', '\n', '\r'], c ≠ d := by
  have hall : ∀ d ∈ ['"', '[', ']', '{', 'n', 't', 'f', ' ', '\t', '\n', '\r'],
      ¬ (d = '-' ∨ d.isDigit = true) := by simp [Char.isDigit]
  rintro d hd rfl
  exact hall c hd h

theorem numberStart_isWhite {c : Char} (h : c = '-' ∨ c.isDigit = true) : isWhite c = false := by
  have hne := numberStart_ne h
  unfold isWhite
  rw [beq_eq_false_iff_ne.2 (hne ' ' (by decide)), beq_eq_false_iff_ne.2 (hne '\t' (by decide)),
    beq_eq_false_iff_ne.2 (hne '\n' (by decide)), beq_eq_false_iff_ne.2 (hne '\r' (by decide))]
  rfl

theorem value_number {c : Char} (h : c = '-' ∨ c.isDigit = true) (fuel : Nat) (cs : List Char) :
    value (fuel + 1) (c :: cs) = number (c :: cs) := by
  have hne := numberStart_ne h
  rw [value, skipWhite_cons (numberStart_isWhite h)]
  split
  · next heq => exact absurd (List.cons.inj heq).1 (hne '"' (by decide))
  · next heq => exact absurd (List.cons.inj heq).1 (hne '[' (by decide))
  · next heq => exact absurd (List.cons.inj heq).1 (hne '{' (by decide))
  · next heq => exact absurd (List.cons.inj heq).1 (hne 'n' (by decide))
  · next heq => exact absurd (List.cons.inj heq).1 (hne 't' (by decide))
  · next heq => exact absurd (List.cons.inj heq).1 (hne 'f' (by decide))
  · rfl

theorem writeInt_cons (n : Int) :
    ∃ c cs, writeInt n = c :: cs ∧ (c = '-' ∨ c.isDigit = true) := by
  rw [writeInt_eq]
  by_cases h : n < 0
  · exact ⟨'-', _, by rw [if_pos h]; rfl, Or.inl rfl⟩
  · obtain ⟨c, cs, hcs⟩ := List.exists_cons_of_ne_nil (Nat.toDigits_ne_nil (n := n.natAbs) (b := 10))
    refine ⟨c, cs, by rw [if_neg h, hcs]; rfl, Or.inr ?_⟩
    exact Nat.isDigit_of_mem_toDigits (b := 10) (n := n.natAbs) (by decide) (by decide)
      (by rw [hcs]; exact List.mem_cons_self)

/-- A written value starts with no white space and no closing bracket. -/
theorem write_cons (j : Json) : ∃ c cs, write j = c :: cs ∧ isWhite c = false ∧ c ≠ ']' := by
  have hnum : ∀ (n : Int) (t : List Char),
      ∃ c cs, writeInt n ++ t = c :: cs ∧ isWhite c = false ∧ c ≠ ']' := by
    intro n t
    obtain ⟨c, cs, hcs, hc⟩ := writeInt_cons n
    exact ⟨c, cs ++ t, by rw [hcs]; rfl, numberStart_isWhite hc, numberStart_ne hc ']' (by decide)⟩
  match j with
  | .null => exact ⟨'n', _, rfl, rfl, by decide⟩
  | .bool true => exact ⟨'t', _, rfl, rfl, by decide⟩
  | .bool false => exact ⟨'f', _, rfl, rfl, by decide⟩
  | .int n => have := hnum n []; rwa [List.append_nil] at this
  | .dec m e => exact hnum m ('e' :: writeInt e)
  | .str s => exact ⟨'"', _, rfl, rfl, by decide⟩
  | .arr [] => exact ⟨'[', _, rfl, rfl, by decide⟩
  | .arr (j :: js) => exact ⟨'[', _, rfl, rfl, by decide⟩
  | .obj [] => exact ⟨'{', _, rfl, rfl, by decide⟩
  | .obj ((n, j) :: ms) => exact ⟨'{', _, rfl, rfl, by decide⟩

/-- `value` reads back what was written of `j`, whatever follows it. -/
def ReadsBack (j : Json) : Prop :=
  ∀ fuel rest, (write j).length ≤ fuel → NumberEnd rest → value fuel (write j ++ rest) = some (j, rest)

theorem numberEnd_writeItems (js : List Json) (rest : List Char) :
    NumberEnd (writeItems js ++ rest) := by
  cases js <;> exact ⟨by decide, by decide, by decide, by decide⟩

theorem numberEnd_writeMembers (ms : List (String × Json)) (rest : List Char) :
    NumberEnd (writeMembers ms ++ rest) := by
  cases ms <;> exact ⟨by decide, by decide, by decide, by decide⟩

theorem items_write (js : List Json) (hjs : ∀ j ∈ js, ReadsBack j) (rest : List Char) :
    ∀ fuel, (writeItems js).length ≤ fuel → items fuel (writeItems js ++ rest) = some (js, rest) := by
  induction js with
  | nil =>
    intro fuel h
    obtain ⟨f, rfl⟩ : ∃ f, fuel = f + 1 := ⟨fuel - 1, by simp only [writeItems, List.length_cons] at h; omega⟩
    rfl
  | cons j js ih =>
    intro fuel h
    simp only [writeItems, List.length_cons, List.length_append] at h
    obtain ⟨f, rfl⟩ : ∃ f, fuel = f + 1 := ⟨fuel - 1, by omega⟩
    have hj := hjs j List.mem_cons_self f (writeItems js ++ rest) (by omega) (numberEnd_writeItems js rest)
    have hrest := ih (fun i hi => hjs i (List.mem_cons_of_mem _ hi)) f (by omega)
    rw [writeItems, List.cons_append, List.append_assoc, items, skipWhite_cons (by decide)]
    simp only [hj, hrest, Option.bind_eq_bind, Option.bind_some]

theorem member_write (n : String) {j : Json} (hj : ReadsBack j) {rest : List Char}
    (hr : NumberEnd rest) (fuel : Nat)
    (h : 2 + (writeString n.toList).length + (write j).length ≤ fuel) :
    member fuel ('"' :: (writeString n.toList ++ ':' :: (write j ++ rest))) = some ((n, j), rest) := by
  obtain ⟨f, rfl⟩ : ∃ f, fuel = f + 1 := ⟨fuel - 1, by omega⟩
  have hlen := length_lt_writeString n.toList
  have hn := string_writeString n.toList (':' :: (write j ++ rest)) f (by omega)
  have hv := hj f rest (by omega) hr
  rw [member, skipWhite_cons (by decide)]
  simp only [hn, hv, skipWhite_cons (show isWhite ':' = false by decide), Option.bind_eq_bind,
    Option.bind_some, String.ofList_toList]

theorem members_write (ms : List (String × Json)) (hms : ∀ m ∈ ms, ReadsBack m.2)
    (rest : List Char) :
    ∀ fuel, (writeMembers ms).length ≤ fuel →
      members fuel (writeMembers ms ++ rest) = some (ms, rest) := by
  induction ms with
  | nil =>
    intro fuel h
    obtain ⟨f, rfl⟩ : ∃ f, fuel = f + 1 :=
      ⟨fuel - 1, by simp only [writeMembers, List.length_cons] at h; omega⟩
    rfl
  | cons m ms ih =>
    intro fuel h
    obtain ⟨n, j⟩ := m
    simp only [writeMembers, List.length_cons, List.length_append] at h
    obtain ⟨f, rfl⟩ : ∃ f, fuel = f + 1 := ⟨fuel - 1, by omega⟩
    have hm := member_write n (j := j) (hms (n, j) List.mem_cons_self) (numberEnd_writeMembers ms rest) f (by omega)
    have hrest := ih (fun i hi => hms i (List.mem_cons_of_mem _ hi)) f (by omega)
    simp only [writeMembers, List.cons_append, List.append_assoc]
    rw [members, skipWhite_cons (by decide)]
    simp only [hm, hrest, Option.bind_eq_bind, Option.bind_some]

theorem readsBack_arr (js : List Json) (hjs : ∀ j ∈ js, ReadsBack j) : ReadsBack (.arr js) := by
  intro fuel rest h hr
  cases js with
  | nil =>
    obtain ⟨f, rfl⟩ : ∃ f, fuel = f + 1 := ⟨fuel - 1, by simp only [write, List.length_cons] at h; omega⟩
    rfl
  | cons j js =>
    simp only [write, List.length_cons, List.length_append] at h
    obtain ⟨f, rfl⟩ : ∃ f, fuel = f + 1 := ⟨fuel - 1, by omega⟩
    have hj := hjs j List.mem_cons_self f (writeItems js ++ rest) (by omega) (numberEnd_writeItems js rest)
    have hrest := items_write js (fun i hi => hjs i (List.mem_cons_of_mem _ hi)) rest f (by omega)
    obtain ⟨c, cs, hcs, hc, hb⟩ := write_cons j
    have hskip : skipWhite (write j ++ (writeItems js ++ rest)) = write j ++ (writeItems js ++ rest) := by
      rw [hcs]; exact skipWhite_cons hc _
    rw [write, List.cons_append, List.append_assoc, value, skipWhite_cons (by decide)]
    simp only [hskip]
    split
    · next heq =>
      rw [hcs] at heq
      exact absurd (List.cons.inj heq).1 hb
    · simp only [hj, hrest, Option.bind_eq_bind, Option.bind_some]

theorem readsBack_obj (ms : List (String × Json)) (hms : ∀ m ∈ ms, ReadsBack m.2) :
    ReadsBack (.obj ms) := by
  intro fuel rest h hr
  cases ms with
  | nil =>
    obtain ⟨f, rfl⟩ : ∃ f, fuel = f + 1 := ⟨fuel - 1, by simp only [write, List.length_cons] at h; omega⟩
    rfl
  | cons m ms =>
    obtain ⟨n, j⟩ := m
    simp only [write, List.length_cons, List.length_append] at h
    obtain ⟨f, rfl⟩ : ∃ f, fuel = f + 1 := ⟨fuel - 1, by omega⟩
    have hm := member_write n (j := j) (hms (n, j) List.mem_cons_self) (numberEnd_writeMembers ms rest) f (by omega)
    have hrest := members_write ms (fun i hi => hms i (List.mem_cons_of_mem _ hi)) rest f (by omega)
    simp only [write, List.cons_append, List.append_assoc]
    rw [value, skipWhite_cons (by decide)]
    simp only [skipWhite_cons (show isWhite '"' = false by decide)]
    split
    · next heq => exact absurd (List.cons.inj heq).1 (by decide)
    · simp only [hm, hrest, Option.bind_eq_bind, Option.bind_some]

theorem readsBack_int (n : Int) : ReadsBack (.int n) := by
  intro fuel rest h hr
  obtain ⟨c, cs, hcs, hc⟩ := writeInt_cons n
  rw [write, hcs, List.length_cons] at h
  obtain ⟨f, rfl⟩ : ∃ f, fuel = f + 1 := ⟨fuel - 1, by omega⟩
  have := number_writeInt n hr
  rw [hcs, List.cons_append] at this
  rw [write, hcs, List.cons_append, value_number hc, this]

theorem readsBack_dec (m e : Int) : ReadsBack (.dec m e) := by
  intro fuel rest h hr
  obtain ⟨c, cs, hcs, hc⟩ := writeInt_cons m
  rw [write, hcs, List.cons_append, List.length_cons] at h
  obtain ⟨f, rfl⟩ : ∃ f, fuel = f + 1 := ⟨fuel - 1, by omega⟩
  have := number_dec m e hr
  rw [hcs, List.cons_append] at this
  rw [write, hcs, List.append_assoc, List.cons_append, List.cons_append, value_number hc, this]

theorem readsBack_str (s : String) : ReadsBack (.str s) := by
  intro fuel rest h _
  rw [write, List.length_cons] at h
  obtain ⟨f, rfl⟩ : ∃ f, fuel = f + 1 := ⟨fuel - 1, by omega⟩
  have hlen := length_lt_writeString s.toList
  have hs := string_writeString s.toList rest f (by omega)
  rw [write, List.cons_append, value, skipWhite_cons (by decide)]
  simp only [hs, Option.bind_eq_bind, Option.bind_some, String.ofList_toList]

theorem readsBack (j : Json) : ReadsBack j := by
  refine Json.rec (motive_1 := ReadsBack) (motive_2 := fun js => ∀ j ∈ js, ReadsBack j)
    (motive_3 := fun ms => ∀ m ∈ ms, ReadsBack m.2) (motive_4 := fun m => ReadsBack m.2)
    ?null ?bool readsBack_int readsBack_dec readsBack_str readsBack_arr readsBack_obj
    ?nil ?cons ?mnil ?mcons (fun _ _ h => h) j
  case null =>
    intro fuel rest h _
    obtain ⟨f, rfl⟩ : ∃ f, fuel = f + 1 := ⟨fuel - 1, by simp only [write, List.length_cons] at h; omega⟩
    rfl
  case bool =>
    intro b fuel rest h _
    obtain ⟨f, rfl⟩ : ∃ f, fuel = f + 1 :=
      ⟨fuel - 1, by cases b <;> simp only [write, List.length_cons] at h <;> omega⟩
    cases b <;> rfl
  case nil => exact fun _ h => absurd h List.not_mem_nil
  case mnil => exact fun _ h => absurd h List.not_mem_nil
  case cons =>
    intro j js hj hjs i hi
    rcases List.mem_cons.1 hi with rfl | hi
    · exact hj
    · exact hjs i hi
  case mcons =>
    intro m ms hm hms i hi
    rcases List.mem_cons.1 hi with rfl | hi
    · exact hm
    · exact hms i hi

/-- **Round trip.**  Every JSON value is read back from its text. -/
theorem parse_text (j : Json) : parse (text j) = some j := by
  have h := readsBack j ((write j).length + 1) [] (by omega) trivial
  rw [List.append_nil] at h
  unfold parse text
  rw [String.toList_ofList, h]
  rfl

end JsonText
