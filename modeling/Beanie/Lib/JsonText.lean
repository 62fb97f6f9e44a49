/-
# `Beanie.Lib.JsonText` — a JSON value is known by its compact text

Values with numbers of any kind.  A number is written in characters that occur
in no other token, and its text says which number it is; then the compact text
says which value it is (`text_inj`), also with more text behind it, as long as
that does not continue a number (`text_append_inj`).
-/
import Beanie.Lib.Json

namespace Beanie

inductive JsonValue (ν : Type)
  | null
  | bool (b : Bool)
  | number (n : ν)
  | string (s : Text)
  | array (xs : List (JsonValue ν))
  | object (members : List (Text × JsonValue ν))

/-- The characters of numbers. -/
def isNumberChar (c : Char) : Bool :=
  c.isDigit || c == '-' || c == '+' || c == '.' || c == 'e' || c == 'E'

/-- The text of a number. -/
class NumberText (ν : Type) where
  write : ν → Text
  chars : ∀ n, ∀ c ∈ write n, isNumberChar c = true
  head : ∀ n, ∃ c t, write n = c :: t ∧ (c.isDigit = true ∨ c = '-')
  inj : ∀ m n, write m = write n → m = n

namespace JsonValue

section
variable {ν : Type} [NumberText ν]

mutual

def text : JsonValue ν → Text
  | .null => ['n', 'u', 'l', 'l']
  | .bool true => ['t', 'r', 'u', 'e']
  | .bool false => ['f', 'a', 'l', 's', 'e']
  | .number n => NumberText.write n
  | .string s => Json.quote s
  | .array [] => ['[', ']']
  | .array (x :: xs) => '[' :: (text x ++ elemsText xs)
  | .object [] => ['{', '}']
  | .object ((k, v) :: ms) => '{' :: (Json.quote k ++ ':' :: (text v ++ membersText ms))

/-- The elements after the first, and the end. -/
def elemsText : List (JsonValue ν) → Text
  | [] => [']']
  | x :: xs => ',' :: (text x ++ elemsText xs)

/-- The members after the first, and the end. -/
def membersText : List (Text × JsonValue ν) → Text
  | [] => ['}']
  | (k, v) :: ms => ',' :: (Json.quote k ++ ':' :: (text v ++ membersText ms))

end

/-! ## One text, one value -/

/-- Text that does not continue a number before it. -/
def Stops (s : Text) : Prop := s.head?.any isNumberChar = false

theorem stops_elemsText (xs : List (JsonValue ν)) (s : Text) : Stops (elemsText xs ++ s) := by
  cases xs <;> rw [elemsText] <;> rfl

theorem stops_membersText (ms : List (Text × JsonValue ν)) (s : Text) :
    Stops (membersText ms ++ s) := by
  cases ms <;> rw [membersText] <;> rfl

theorem quote_append_inj {k l s t : Text} (h : Json.quote k ++ s = Json.quote l ++ t) :
    k = l ∧ s = t := by
  rw [Json.quote_append, Json.quote_append] at h
  have hread := congrArg (fun u : Text => Json.readString u.tail) h
  simp only [List.tail_cons, Json.readString_quote, Option.some.injEq, Prod.mk.injEq] at hread
  exact hread

theorem takeWhile_write (n : ν) {s : Text} (hs : Stops s) :
    (NumberText.write n ++ s).takeWhile isNumberChar = NumberText.write n := by
  rw [List.takeWhile_append_of_pos (NumberText.chars n)]
  cases s with
  | nil => simp
  | cons c s =>
      have hc : isNumberChar c = false := hs
      rw [List.takeWhile_cons_of_neg (by rw [hc]; decide), List.append_nil]

theorem write_append_inj {m n : ν} {s t : Text} (hs : Stops s) (ht : Stops t)
    (h : NumberText.write m ++ s = NumberText.write n ++ t) : m = n ∧ s = t := by
  have hwrite : NumberText.write m = NumberText.write n := by
    rw [← takeWhile_write m hs, h, takeWhile_write n ht]
  refine ⟨NumberText.inj m n hwrite, ?_⟩
  rw [hwrite] at h
  exact List.append_cancel_left h

/-- The character a value's text begins with, for all numbers the same. -/
def opening : JsonValue ν → Char
  | .null => 'n'
  | .bool true => 't'
  | .bool false => 'f'
  | .number _ => '0'
  | .string _ => '"'
  | .array _ => '['
  | .object _ => '{'

def openingOf (c : Char) : Char := if c.isDigit ∨ c = '-' then '0' else c

theorem opening_eq (v : JsonValue ν) (s : Text) :
    (text v ++ s).head?.map openingOf = some v.opening := by
  cases v with
  | null => rw [text]; rfl
  | bool b => cases b <;> rw [text] <;> rfl
  | number n =>
      obtain ⟨c, t, hwrite, hc⟩ := NumberText.head n
      rw [text, hwrite]
      show some (openingOf c) = some '0'
      rw [openingOf, if_pos hc]
  | string s => rw [text]; rfl
  | array xs => cases xs <;> rw [text] <;> rfl
  | object ms =>
      cases ms with
      | nil => rw [text]; rfl
      | cons m ms => rw [text]; rfl

theorem opening_of_text {v w : JsonValue ν} {s t : Text} (h : text v ++ s = text w ++ t) :
    v.opening = w.opening := by
  have hv := opening_eq v s
  rw [h, opening_eq w t] at hv
  exact (Option.some.inj hv).symm

/-- No element begins with the bracket that would end an array before it. -/
theorem text_ne_bracket (v : JsonValue ν) (s t : Text) : text v ++ s ≠ ']' :: t := by
  intro h
  have hv := opening_eq v s
  rw [h] at hv
  have hbracket : v.opening = ']' := (Option.some.inj hv).symm
  cases v with
  | bool b => cases b <;> exact absurd hbracket (by simp [opening])
  | _ => exact absurd hbracket (by simp [opening])

mutual

/-- The value and what follows it are known from the text of both. -/
theorem text_append_inj : ∀ (v w : JsonValue ν) {s t : Text}, Stops s → Stops t →
    text v ++ s = text w ++ t → v = w ∧ s = t
  | .null, w, s, t, _, _, h => by
      have hopen := opening_of_text h
      cases w with
      | null => exact ⟨rfl, List.append_cancel_left h⟩
      | bool b => cases b <;> simp [opening] at hopen
      | _ => simp [opening] at hopen
  | .bool b, w, s, t, _, _, h => by
      have hopen := opening_of_text h
      cases w with
      | bool b' =>
          have hb : b = b' := by
            cases b <;> cases b' <;> simp [opening] at hopen <;> rfl
          subst hb
          exact ⟨rfl, List.append_cancel_left h⟩
      | _ => cases b <;> simp [opening] at hopen
  | .number m, w, s, t, hs, ht, h => by
      have hopen := opening_of_text h
      cases w with
      | number n =>
          rw [text, text] at h
          obtain ⟨rfl, hst⟩ := write_append_inj hs ht h
          exact ⟨rfl, hst⟩
      | bool b => cases b <;> simp [opening] at hopen
      | _ => simp [opening] at hopen
  | .string k, w, s, t, _, _, h => by
      have hopen := opening_of_text h
      cases w with
      | string l =>
          rw [text, text] at h
          obtain ⟨rfl, hst⟩ := quote_append_inj h
          exact ⟨rfl, hst⟩
      | bool b => cases b <;> simp [opening] at hopen
      | _ => simp [opening] at hopen
  | .array xs, w, s, t, hs, ht, h => by
      have hopen := opening_of_text h
      cases w with
      | array ys =>
          match xs, ys, h with
          | [], [], h => exact ⟨rfl, List.append_cancel_left h⟩
          | [], y :: ys, h =>
              rw [text, text] at h
              simp only [List.cons_append, List.nil_append, List.cons.injEq, true_and,
                List.append_assoc] at h
              exact absurd h.symm (text_ne_bracket _ _ _)
          | x :: xs, [], h =>
              rw [text, text] at h
              simp only [List.cons_append, List.nil_append, List.cons.injEq, true_and,
                List.append_assoc] at h
              exact absurd h (text_ne_bracket _ _ _)
          | x :: xs, y :: ys, h =>
              rw [text, text] at h
              simp only [List.cons_append, List.cons.injEq, true_and, List.append_assoc] at h
              obtain ⟨rfl, hrest⟩ := text_append_inj x y (stops_elemsText xs s)
                (stops_elemsText ys t) h
              obtain ⟨rfl, hst⟩ := elemsText_append_inj xs ys hs ht hrest
              exact ⟨rfl, hst⟩
      | bool b => cases b <;> simp [opening] at hopen
      | _ => simp [opening] at hopen
  | .object ms, w, s, t, hs, ht, h => by
      have hopen := opening_of_text h
      cases w with
      | object ns =>
          match ms, ns, h with
          | [], [], h => exact ⟨rfl, List.append_cancel_left h⟩
          | [], (l, y) :: ns, h =>
              rw [text, text, Json.quote] at h
              simp at h
          | (k, x) :: ms, [], h =>
              rw [text, text, Json.quote] at h
              simp at h
          | (k, x) :: ms, (l, y) :: ns, h =>
              rw [text, text] at h
              simp only [List.cons_append, List.cons.injEq, true_and, List.append_assoc] at h
              obtain ⟨rfl, hvalue⟩ := quote_append_inj h
              simp only [List.cons.injEq, true_and] at hvalue
              obtain ⟨rfl, hrest⟩ := text_append_inj x y (stops_membersText ms s)
                (stops_membersText ns t) hvalue
              obtain ⟨rfl, hst⟩ := membersText_append_inj ms ns hs ht hrest
              exact ⟨rfl, hst⟩
      | bool b => cases b <;> simp [opening] at hopen
      | _ => simp [opening] at hopen

theorem elemsText_append_inj : ∀ (xs ys : List (JsonValue ν)) {s t : Text}, Stops s → Stops t →
    elemsText xs ++ s = elemsText ys ++ t → xs = ys ∧ s = t
  | [], [], _, _, _, _, h => ⟨rfl, List.append_cancel_left h⟩
  | [], y :: ys, _, _, _, _, h => by
      rw [elemsText, elemsText] at h
      simp at h
  | x :: xs, [], _, _, _, _, h => by
      rw [elemsText, elemsText] at h
      simp at h
  | x :: xs, y :: ys, s, t, hs, ht, h => by
      rw [elemsText, elemsText] at h
      simp only [List.cons_append, List.cons.injEq, true_and, List.append_assoc] at h
      obtain ⟨rfl, hrest⟩ := text_append_inj x y (stops_elemsText xs s) (stops_elemsText ys t) h
      obtain ⟨rfl, hst⟩ := elemsText_append_inj xs ys hs ht hrest
      exact ⟨rfl, hst⟩

theorem membersText_append_inj : ∀ (ms ns : List (Text × JsonValue ν)) {s t : Text},
    Stops s → Stops t → membersText ms ++ s = membersText ns ++ t → ms = ns ∧ s = t
  | [], [], _, _, _, _, h => ⟨rfl, List.append_cancel_left h⟩
  | [], (l, y) :: ns, _, _, _, _, h => by
      rw [membersText, membersText] at h
      simp at h
  | (k, x) :: ms, [], _, _, _, _, h => by
      rw [membersText, membersText] at h
      simp at h
  | (k, x) :: ms, (l, y) :: ns, s, t, hs, ht, h => by
      rw [membersText, membersText] at h
      simp only [List.cons_append, List.cons.injEq, true_and, List.append_assoc] at h
      obtain ⟨rfl, hvalue⟩ := quote_append_inj h
      simp only [List.cons.injEq, true_and] at hvalue
      obtain ⟨rfl, hrest⟩ := text_append_inj x y (stops_membersText ms s)
        (stops_membersText ns t) hvalue
      obtain ⟨rfl, hst⟩ := membersText_append_inj ms ns hs ht hrest
      exact ⟨rfl, hst⟩

end

theorem text_inj {v w : JsonValue ν} (h : text v = text w) : v = w :=
  (text_append_inj v w (s := []) (t := []) rfl rfl (by rw [h])).1

end

end JsonValue

end Beanie
