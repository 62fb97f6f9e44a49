/-
# `Beanie.Lib.Json` — values, their compact text, and a reader

A value is written without blanks and read with blanks allowed.  Numbers are
whole: a fraction or an exponent is not read.  What is written is read back,
whatever the strings contain.

    parse_text    `Json.parse v.text = some v`
-/
import Beanie.Lib.Text

namespace Beanie

inductive Json
  | null
  | bool (b : Bool)
  | num (n : Int)
  | str (s : Text)
  | arr (xs : List Json)
  | obj (members : List (Text × Json))

namespace Json

/-! ## Strings -/

/-- The escapes of two characters, by the character they stand for. -/
def escapes : List (Char × Char) :=
  [('"', '"'), ('\\', '\\'), ('\x08', 'b'), ('\x0c', 'f'), ('\n', 'n'), ('\r', 'r'), ('\t', 't')]

def escapeChar (c : Char) : Text :=
  match escapes.lookup c with
  | some e => ['\\', e]
  | none =>
      if c.toNat < 32 then
        ['\\', 'u', '0', '0', (c.toNat / 16).digitChar, (c.toNat % 16).digitChar]
      else [c]

def quote (s : Text) : Text := '"' :: (s.flatMap escapeChar ++ ['"'])

/-- The character of a two-character escape. -/
def unescape (c : Char) : Option Char :=
  if c = '/' then some '/' else (escapes.find? fun p => p.2 = c).map Prod.fst

/-- The code unit of four hexadecimal digits. -/
def codeUnit (a b c d : Char) : Option Nat := do
  let a ← hexDigit? a
  let b ← hexDigit? b
  let c ← hexDigit? c
  let d ← hexDigit? d
  some (((a * 16 + b) * 16 + c) * 16 + d)

def isHighSurrogate (n : Nat) : Bool := 0xd800 ≤ n && n < 0xdc00

def isLowSurrogate (n : Nat) : Bool := 0xdc00 ≤ n && n < 0xe000

def pushChar (c : Char) : Option (Text × Text) → Option (Text × Text)
  | some (t, s) => some (c :: t, s)
  | none => none

/-- What follows the opening quote: the string, and the text after the closing one. -/
def readString : Text → Option (Text × Text)
  | [] => none
  | '"' :: s => some ([], s)
  | '\\' :: 'u' :: a :: b :: c :: d :: s =>
      match codeUnit a b c d with
      | none => none
      | some n =>
          if isLowSurrogate n then none
          else if isHighSurrogate n then
            match s with
            | '\\' :: 'u' :: e :: f :: g :: h :: s =>
                match codeUnit e f g h with
                | none => none
                | some m =>
                    if isLowSurrogate m then
                      pushChar (Char.ofNat (0x10000 + (n - 0xd800) * 0x400 + (m - 0xdc00)))
                        (readString s)
                    else none
            | _ => none
          else pushChar (Char.ofNat n) (readString s)
  | '\\' :: e :: s =>
      match unescape e with
      | some c => pushChar c (readString s)
      | none => none
  | c :: s => if c = '\\' ∨ c.toNat < 32 then none else pushChar c (readString s)

/-! ## Numbers -/

def intText : Int → Text
  | .ofNat n => Nat.toDigits 10 n
  | .negSucc n => '-' :: Nat.toDigits 10 (n + 1)

/-- The characters that would make the digits before them a longer number. -/
def continuesNumber (c : Char) : Bool := c.isDigit || c == '.' || c == 'e' || c == 'E'

/-- No leading zero, and neither a fraction nor an exponent. -/
def readNat (s : Text) : Option (Nat × Text) :=
  let ds := s.takeWhile Char.isDigit
  let rest := s.dropWhile Char.isDigit
  if ds = [] ∨ (ds.head? = some '0' ∧ ds ≠ ['0']) ∨ rest.head?.any continuesNumber then none
  else some (Nat.ofDigitChars 10 ds 0, rest)

def readNumber : Text → Option (Int × Text)
  | '-' :: s =>
      match readNat s with
      | some (n + 1, rest) => some (Int.negSucc n, rest)
      | _ => none
  | s =>
      match readNat s with
      | some (n, rest) => some (Int.ofNat n, rest)
      | none => none

/-! ## Values -/

mutual

def text : Json → Text
  | .null => ['n', 'u', 'l', 'l']
  | .bool true => ['t', 'r', 'u', 'e']
  | .bool false => ['f', 'a', 'l', 's', 'e']
  | .num n => intText n
  | .str s => quote s
  | .arr xs => '[' :: (elemsText xs ++ [']'])
  | .obj ms => '{' :: (membersText ms ++ ['}'])

def elemsText : List Json → Text
  | [] => []
  | [x] => text x
  | x :: y :: xs => text x ++ ',' :: elemsText (y :: xs)

def membersText : List (Text × Json) → Text
  | [] => []
  | [(k, v)] => quote k ++ ':' :: text v
  | (k, v) :: m :: ms => quote k ++ ':' :: (text v ++ ',' :: membersText (m :: ms))

end

def isBlank (c : Char) : Bool := c == ' ' || c == '\t' || c == '\n' || c == '\r'

def skipBlank (s : Text) : Text := s.dropWhile isBlank

def readLiteral (name : Text) (v : Json) (s : Text) : Option (Json × Text) :=
  if name <+: s then some (v, s.drop name.length) else none

mutual

/-- The fuel is spent on nesting and on elements. -/
def readValue : Nat → Text → Option (Json × Text)
  | 0, _ => none
  | fuel + 1, s =>
      match skipBlank s with
      | [] => none
      | c :: s =>
          if c = '"' then do
            let (t, s) ← readString s
            some (.str t, s)
          else if c = '[' then
            if (skipBlank s).head? = some ']' then some (.arr [], (skipBlank s).tail)
            else do
              let (xs, s) ← readElems fuel s
              some (.arr xs, s)
          else if c = '{' then
            if (skipBlank s).head? = some '}' then some (.obj [], (skipBlank s).tail)
            else do
              let (ms, s) ← readMembers fuel s
              some (.obj ms, s)
          else if c = 'n' then readLiteral ['u', 'l', 'l'] .null s
          else if c = 't' then readLiteral ['r', 'u', 'e'] (.bool true) s
          else if c = 'f' then readLiteral ['a', 'l', 's', 'e'] (.bool false) s
          else do
            let (n, s) ← readNumber (c :: s)
            some (.num n, s)

def readElems : Nat → Text → Option (List Json × Text)
  | 0, _ => none
  | fuel + 1, s => do
      let (x, s) ← readValue fuel s
      match skipBlank s with
      | ',' :: s => do
          let (xs, s) ← readElems fuel s
          some (x :: xs, s)
      | ']' :: s => some ([x], s)
      | _ => none

def readMembers : Nat → Text → Option (List (Text × Json) × Text)
  | 0, _ => none
  | fuel + 1, s =>
      match skipBlank s with
      | '"' :: s => do
          let (k, s) ← readString s
          match skipBlank s with
          | ':' :: s => do
              let (v, s) ← readValue fuel s
              match skipBlank s with
              | ',' :: s => do
                  let (ms, s) ← readMembers fuel s
                  some ((k, v) :: ms, s)
              | '}' :: s => some ([(k, v)], s)
              | _ => none
          | _ => none
      | _ => none

end

/-- One value, and nothing but blanks after it. -/
def parse (s : Text) : Option Json :=
  match readValue (s.length + 1) s with
  | some (v, rest) => if skipBlank rest = [] then some v else none
  | none => none

/-! ## What is written is read back -/

theorem digitChar_control : ∀ n < 32, hexDigit? (n / 16).digitChar = some (n / 16) ∧
    hexDigit? (n % 16).digitChar = some (n % 16) := by decide

theorem codeUnit_control {n : Nat} (h : n < 32) :
    codeUnit '0' '0' (n / 16).digitChar (n % 16).digitChar = some n := by
  have hzero : hexDigit? '0' = some 0 := rfl
  rw [codeUnit, hzero, (digitChar_control n h).1, (digitChar_control n h).2]
  show some (((0 * 16 + 0) * 16 + n / 16) * 16 + n % 16) = some n
  congr 1
  omega

theorem readString_escape {c e : Char} (h : (c, e) ∈ escapes) (s : Text) :
    readString ('\\' :: e :: s) = pushChar c (readString s) := by
  simp only [escapes, List.mem_cons, Prod.mk.injEq, List.not_mem_nil, or_false] at h
  rcases h with ⟨rfl, rfl⟩ | ⟨rfl, rfl⟩ | ⟨rfl, rfl⟩ | ⟨rfl, rfl⟩ | ⟨rfl, rfl⟩ | ⟨rfl, rfl⟩ |
    ⟨rfl, rfl⟩ <;> rfl

theorem mem_of_lookup {c e : Char} {l : List (Char × Char)} (h : l.lookup c = some e) :
    (c, e) ∈ l := by
  induction l with
  | nil => cases h
  | cons p l ih =>
      rw [List.lookup_cons] at h
      by_cases hp : (c == p.1) = true
      · rw [hp] at h
        cases h
        rw [eq_of_beq hp]
        exact List.mem_cons_self
      · rw [Bool.not_eq_true] at hp
        rw [hp] at h
        exact List.mem_cons_of_mem _ (ih h)

theorem readString_plain {c : Char} (h : escapes.lookup c = none) (hc : ¬ c.toNat < 32) (s : Text) :
    readString (c :: s) = pushChar c (readString s) := by
  have hquote : c ≠ '"' := by
    rintro rfl
    cases h
  have hslash : c ≠ '\\' := by
    rintro rfl
    cases h
  rw [readString.eq_def]
  split
  · rename_i heq
    cases heq
  · rename_i heq
    cases heq
    exact absurd rfl hquote
  · rename_i heq
    cases heq
    exact absurd rfl hslash
  · rename_i heq
    cases heq
    exact absurd rfl hslash
  · rename_i heq
    cases heq
    exact if_neg (not_or.mpr ⟨hslash, hc⟩)

theorem readString_escapeChar (c : Char) (s : Text) :
    readString (escapeChar c ++ s) = pushChar c (readString s) := by
  unfold escapeChar
  cases h : escapes.lookup c with
  | some e => exact readString_escape (mem_of_lookup h) s
  | none =>
      by_cases hc : c.toNat < 32
      · rw [if_pos hc]
        have hlow : isLowSurrogate c.toNat = false := by
          rw [isLowSurrogate, Bool.and_eq_false_iff]
          exact .inl (decide_eq_false (by omega))
        have hhigh : isHighSurrogate c.toNat = false := by
          rw [isHighSurrogate, Bool.and_eq_false_iff]
          exact .inl (decide_eq_false (by omega))
        show readString ('\\' :: 'u' :: '0' :: '0' :: (c.toNat / 16).digitChar ::
          (c.toNat % 16).digitChar :: s) = _
        rw [readString, codeUnit_control hc]
        dsimp only
        rw [if_neg (by rw [hlow]; decide), if_neg (by rw [hhigh]; decide), Char.ofNat_toNat]
      · rw [if_neg hc]
        exact readString_plain h hc s

theorem readString_quote (t s : Text) :
    readString (t.flatMap escapeChar ++ '"' :: s) = some (t, s) := by
  induction t with
  | nil => rfl
  | cons c t ih =>
      rw [List.flatMap_cons, List.append_assoc, readString_escapeChar, ih]
      rfl

/-- A text that does not continue the number before it. -/
def Ends (s : Text) : Prop := s.head?.any continuesNumber = false

theorem toDigits_head {n : Nat} (h : (Nat.toDigits 10 n).head? = some '0') :
    Nat.toDigits 10 n = ['0'] := by
  induction n using Nat.strong_induction_on with
  | _ n ih =>
      by_cases hn : n < 10
      · rw [Nat.toDigits_of_lt_base hn] at h ⊢
        rw [List.head?_cons, Option.some.injEq] at h
        rw [h]
      · have hne : Nat.toDigits 10 (n / 10) ≠ [] := Nat.toDigits_ne_nil
        rw [Nat.toDigits_of_base_le (by omega) (by omega), List.head?_append_of_ne_nil _ hne] at h
        have hzero := ih (n / 10) (by omega) h
        have hvalue : n / 10 = 0 := by
          rw [← Nat.ofDigitChars_ten_toDigits (n := n / 10), hzero]
          rfl
        omega

theorem readNat_toDigits (n : Nat) {s : Text} (hs : Ends s) :
    readNat (Nat.toDigits 10 n ++ s) = some (n, s) := by
  have hdigit : ∀ c ∈ Nat.toDigits 10 n, c.isDigit = true :=
    fun c hc => Nat.isDigit_of_mem_toDigits (by omega) (by omega) hc
  have hstop : s.takeWhile Char.isDigit = [] ∧ s.dropWhile Char.isDigit = s := by
    cases s with
    | nil => exact ⟨rfl, rfl⟩
    | cons c s =>
        have hc : c.isDigit = false := by
          have hcont : continuesNumber c = false := hs
          simp only [continuesNumber, Bool.or_eq_false_iff] at hcont
          exact hcont.1.1.1
        rw [List.takeWhile_cons, List.dropWhile_cons, hc]
        exact ⟨rfl, rfl⟩
  have htake : (Nat.toDigits 10 n ++ s).takeWhile Char.isDigit = Nat.toDigits 10 n := by
    rw [List.takeWhile_append_of_pos hdigit, hstop.1, List.append_nil]
  have hdrop : (Nat.toDigits 10 n ++ s).dropWhile Char.isDigit = s := by
    rw [List.dropWhile_append_of_pos hdigit, hstop.2]
  rw [readNat, htake, hdrop, if_neg, Nat.ofDigitChars_ten_toDigits]
  rintro (hnil | ⟨hzero, hlong⟩ | hmore)
  · exact Nat.toDigits_ne_nil hnil
  · exact hlong (toDigits_head hzero)
  · rw [hs] at hmore
    cases hmore

/-- The first character of a number's text. -/
def StartsNumber (c : Char) : Prop := c = '-' ∨ c.isDigit = true

theorem intText_head (n : Int) : ∃ c t, intText n = c :: t ∧ StartsNumber c := by
  cases n with
  | ofNat n =>
      cases h : Nat.toDigits 10 n with
      | nil => exact absurd h Nat.toDigits_ne_nil
      | cons c t =>
          have hc : c ∈ Nat.toDigits 10 n := by
            rw [h]
            exact List.mem_cons_self
          exact ⟨c, t, h, .inr (Nat.isDigit_of_mem_toDigits (by omega) (by omega) hc)⟩
  | negSucc n => exact ⟨'-', _, rfl, .inl rfl⟩

theorem readNumber_intText (n : Int) {s : Text} (hs : Ends s) :
    readNumber (intText n ++ s) = some (n, s) := by
  cases n with
  | ofNat n =>
      have hread := readNat_toDigits n hs
      obtain ⟨c, t, htext, hc⟩ := intText_head (.ofNat n)
      have hminus : c ≠ '-' := by
        rintro rfl
        have hmem : '-' ∈ Nat.toDigits 10 n := by
          show '-' ∈ intText (.ofNat n)
          rw [htext]
          exact List.mem_cons_self
        cases Nat.isDigit_of_mem_toDigits (by omega) (by omega) hmem
      change readNat (intText (.ofNat n) ++ s) = _ at hread
      rw [htext] at hread ⊢
      unfold readNumber
      split
      · rename_i heq
        cases heq
        exact absurd rfl hminus
      · rw [hread]
  | negSucc n =>
      show readNumber ('-' :: (Nat.toDigits 10 (n + 1) ++ s)) = _
      rw [readNumber, readNat_toDigits (n + 1) hs]

theorem text_head (v : Json) : ∃ c t, v.text = c :: t ∧ isBlank c = false ∧ c ≠ ']' := by
  have hnumber : ∀ c, StartsNumber c → isBlank c = false ∧ c ≠ ']' := by
    rintro c (rfl | hc)
    · exact ⟨rfl, by decide⟩
    · constructor
      · simp only [isBlank, Bool.or_eq_false_iff, beq_eq_false_iff_ne]
        refine ⟨⟨⟨?_, ?_⟩, ?_⟩, ?_⟩ <;>
          · rintro rfl
            cases hc
      · rintro rfl
        cases hc
  cases v with
  | null => exact ⟨_, _, by rw [text], rfl, by decide⟩
  | bool b =>
      cases b with
      | false => exact ⟨_, _, by rw [text], rfl, by decide⟩
      | true => exact ⟨_, _, by rw [text], rfl, by decide⟩
  | num n =>
      obtain ⟨c, t, htext, hc⟩ := intText_head n
      exact ⟨c, t, by rw [text]; exact htext, hnumber c hc⟩
  | str s => exact ⟨_, _, by rw [text, quote], rfl, by decide⟩
  | arr xs => exact ⟨_, _, by rw [text], rfl, by decide⟩
  | obj ms => exact ⟨_, _, by rw [text], rfl, by decide⟩

theorem skipBlank_cons {c : Char} (h : isBlank c = false) (s : Text) :
    skipBlank (c :: s) = c :: s := by
  rw [skipBlank, List.dropWhile_cons, h]
  rfl

theorem length_text_pos (v : Json) : 0 < v.text.length := by
  obtain ⟨c, t, htext, -⟩ := text_head v
  rw [htext]
  exact Nat.succ_pos _

theorem elemsText_cons (x y : Json) (xs : List Json) :
    elemsText (x :: y :: xs) = text x ++ ',' :: elemsText (y :: xs) := by
  rw [elemsText]

theorem elemsText_head (x : Json) (xs : List Json) :
    ∃ c t, elemsText (x :: xs) = c :: t ∧ isBlank c = false ∧ c ≠ ']' := by
  obtain ⟨c, t, htext, hc⟩ := text_head x
  cases xs with
  | nil => exact ⟨c, t, by rw [elemsText, htext], hc⟩
  | cons y xs => exact ⟨c, _, by rw [elemsText_cons, htext]; rfl, hc⟩

theorem quote_append (k s : Text) : quote k ++ s = '"' :: (k.flatMap escapeChar ++ '"' :: s) := by
  rw [quote, List.cons_append, List.append_assoc]
  rfl

theorem membersText_head (m : Text × Json) (ms : List (Text × Json)) :
    ∃ t, membersText (m :: ms) = '"' :: t := by
  cases ms with
  | nil => exact ⟨_, by rw [membersText, quote]; rfl⟩
  | cons m' ms => exact ⟨_, by rw [membersText, quote]; rfl⟩

theorem ends_comma (s : Text) : Ends (',' :: s) := rfl

theorem ends_bracket (s : Text) : Ends (']' :: s) := rfl

theorem ends_brace (s : Text) : Ends ('}' :: s) := rfl

theorem readValue_number {fuel : Nat} (n : Int) {s : Text} (hs : Ends s) :
    readValue (fuel + 1) (intText n ++ s) = some (.num n, s) := by
  obtain ⟨c, t, htext, hc⟩ := intText_head n
  obtain ⟨c', t', htext', hblank, -⟩ := text_head (.num n)
  rw [text, htext] at htext'
  cases htext'
  have hread := readNumber_intText n hs
  rw [htext] at hread ⊢
  have hother : ∀ d : Char, d.isDigit = false → d ≠ '-' → c ≠ d := by
    rintro d hd hminus rfl
    rcases hc with hc | hc
    · exact hminus hc
    · rw [hd] at hc
      cases hc
  rw [List.cons_append] at hread ⊢
  rw [readValue, skipBlank_cons hblank]
  dsimp only
  rw [if_neg (hother _ rfl (by decide)), if_neg (hother _ rfl (by decide)),
    if_neg (hother _ rfl (by decide)), if_neg (hother _ rfl (by decide)),
    if_neg (hother _ rfl (by decide)), if_neg (hother _ rfl (by decide)), hread]
  rfl

mutual

/-- The induction is on the fuel: as much as the text has characters is enough. -/
theorem readValue_text (v : Json) {fuel : Nat} {s : Text} (hfuel : v.text.length ≤ fuel)
    (hs : Ends s) : readValue fuel (v.text ++ s) = some (v, s) := by
  obtain ⟨n, rfl⟩ : ∃ n, fuel = n + 1 :=
    Nat.exists_eq_succ_of_ne_zero (by have := length_text_pos v; omega)
  cases v with
  | null => rw [text]; rfl
  | bool b =>
      cases b with
      | false => rw [text]; rfl
      | true => rw [text]; rfl
  | num k =>
      rw [text]
      exact readValue_number k hs
  | str t =>
      rw [text, quote, readValue]
      show (readString (t.flatMap escapeChar ++ ['"'] ++ s)).bind _ = _
      rw [List.append_assoc]
      show (readString (t.flatMap escapeChar ++ '"' :: s)).bind _ = _
      rw [readString_quote]
      rfl
  | arr xs =>
      cases xs with
      | nil => rw [text, elemsText]; rfl
      | cons x xs =>
          obtain ⟨c, t, htext, hblank, hclose⟩ := elemsText_head x xs
          have hlen : (elemsText (x :: xs)).length + 1 ≤ n := by
            rw [text, List.length_cons, List.length_append, List.length_singleton] at hfuel
            omega
          have hread := readElems_text x xs (s := s) hlen
          have hskip : skipBlank (elemsText (x :: xs) ++ ']' :: s) =
              c :: (t ++ ']' :: s) := by
            rw [htext]
            exact skipBlank_cons hblank _
          rw [text, List.cons_append, List.append_assoc, readValue, skipBlank_cons rfl]
          dsimp only
          rw [if_neg (by decide), if_pos rfl]
          show (if (skipBlank (elemsText (x :: xs) ++ ']' :: s)).head? = some ']' then _ else
            (readElems n (elemsText (x :: xs) ++ ']' :: s)).bind _) = _
          rw [hskip, List.head?_cons, if_neg (fun h => hclose (Option.some.inj h)), hread]
          rfl
  | obj ms =>
      cases ms with
      | nil => rw [text, membersText]; rfl
      | cons m ms =>
          obtain ⟨k, v⟩ := m
          obtain ⟨t, htext⟩ := membersText_head (k, v) ms
          have hlen : (membersText ((k, v) :: ms)).length + 1 ≤ n := by
            rw [text, List.length_cons, List.length_append, List.length_singleton] at hfuel
            omega
          have hread := readMembers_text k v ms (s := s) hlen
          have hskip : skipBlank (membersText ((k, v) :: ms) ++ '}' :: s) =
              '"' :: (t ++ '}' :: s) := by
            rw [htext]
            exact skipBlank_cons rfl _
          rw [text, List.cons_append, List.append_assoc, readValue, skipBlank_cons rfl]
          dsimp only
          rw [if_neg (by decide), if_neg (by decide), if_pos rfl]
          show (if (skipBlank (membersText ((k, v) :: ms) ++ '}' :: s)).head? = some '}' then _ else
            (readMembers n (membersText ((k, v) :: ms) ++ '}' :: s)).bind _) = _
          rw [hskip, List.head?_cons, if_neg (by decide), hread]
          rfl
termination_by fuel

theorem readElems_text (x : Json) (xs : List Json) {fuel : Nat} {s : Text}
    (hfuel : (elemsText (x :: xs)).length + 1 ≤ fuel) :
    readElems fuel (elemsText (x :: xs) ++ ']' :: s) = some (x :: xs, s) := by
  obtain ⟨n, rfl⟩ : ∃ n, fuel = n + 1 := Nat.exists_eq_succ_of_ne_zero (by omega)
  cases xs with
  | nil =>
      rw [elemsText] at hfuel ⊢
      rw [readElems, readValue_text x (by omega) (ends_bracket s)]
      rfl
  | cons y ys =>
      rw [elemsText_cons] at hfuel ⊢
      rw [List.length_append, List.length_cons] at hfuel
      have hx := length_text_pos x
      rw [List.append_assoc, List.cons_append, readElems,
        readValue_text x (by omega) (ends_comma _)]
      show (readElems n (elemsText (y :: ys) ++ ']' :: s)).bind _ = _
      rw [readElems_text y ys (by omega)]
      rfl
termination_by fuel

theorem readMembers_text (k : Text) (v : Json) (ms : List (Text × Json)) {fuel : Nat} {s : Text}
    (hfuel : (membersText ((k, v) :: ms)).length + 1 ≤ fuel) :
    readMembers fuel (membersText ((k, v) :: ms) ++ '}' :: s) = some ((k, v) :: ms, s) := by
  obtain ⟨n, rfl⟩ : ∃ n, fuel = n + 1 := Nat.exists_eq_succ_of_ne_zero (by omega)
  -- the member up to its value
  have hkey : ∀ rest : Text, readMembers (n + 1) (quote k ++ ':' :: rest) =
      (readValue n rest).bind fun p => match skipBlank p.2 with
        | ',' :: s => (readMembers n s).bind fun q => some ((k, p.1) :: q.1, q.2)
        | '}' :: s => some ([(k, p.1)], s)
        | _ => none := by
    intro rest
    rw [quote_append, readMembers, skipBlank_cons rfl]
    show (readString (k.flatMap escapeChar ++ '"' :: ':' :: rest)).bind _ = _
    rw [readString_quote]
    rfl
  have hquote : 0 < (quote k).length := Nat.succ_pos _
  cases ms with
  | nil =>
      rw [membersText] at hfuel ⊢
      rw [List.length_append, List.length_cons] at hfuel
      rw [List.append_assoc, List.cons_append, hkey,
        readValue_text v (by omega) (ends_brace s)]
      rfl
  | cons m ms =>
      rw [membersText] at hfuel ⊢
      rw [List.length_append, List.length_cons, List.length_append, List.length_cons] at hfuel
      rw [List.append_assoc, List.cons_append, List.append_assoc, List.cons_append, hkey,
        readValue_text v (by omega) (ends_comma _)]
      obtain ⟨k', v'⟩ := m
      show (readMembers n (membersText ((k', v') :: ms) ++ '}' :: s)).bind _ = _
      rw [readMembers_text k' v' ms (by omega)]
      rfl
termination_by fuel

end

theorem parse_text (v : Json) : parse v.text = some v := by
  have hread := readValue_text v (s := []) (Nat.le_succ _) rfl
  rw [List.append_nil] at hread
  rw [parse, hread]
  rfl

end Json

end Beanie
