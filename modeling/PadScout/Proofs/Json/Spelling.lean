import Mathlib.Data.List.Chain
import PadScout.Json.Basic
import PadScout.Json.Printer

/-! # The grammar of JSON

Which texts spell a value, said without any reading.  A value has its tokens (`Json.tokens`), each
token has its spellings (`Token.Spelled`), and a text of tokens has them in order, with as much
white space before, between and behind them as it likes (`Lays`).  Only a text has many spellings:
every character may be escaped, with the letter that it has or by number, and a pair of surrogates
is one character.

In a value a number is followed by a comma or a closing bracket, or by nothing
(`separated_tokens`), so that its digits end where it ends.
-/
namespace PadScout
namespace Json

/-! ## Tokens of values -/

mutual

/-- **The tokens of a value**, in order. -/
def tokens : Json → List Token
  | .null => [.null]
  | .bool b => [.bool b]
  | .number n => [.number n]
  | .text s => [.text s]
  | .array [] => [.openArray, .closeArray]
  | .array (v :: vs) => .openArray :: tokens v ++ elementTokens vs ++ [.closeArray]
  | .object [] => [.openObject, .closeObject]
  | .object (m :: ms) => .openObject :: memberTokens m ++ membersTokens ms ++ [.closeObject]

/-- The tokens of the elements behind the first one. -/
def elementTokens : List Json → List Token
  | [] => []
  | v :: vs => .comma :: tokens v ++ elementTokens vs

/-- The tokens of a name and its value. -/
def memberTokens : Option (List Char) × Json → List Token
  | (name, v) => .text name :: .colon :: tokens v

/-- The tokens of the members behind the first one. -/
def membersTokens : List (Option (List Char) × Json) → List Token
  | [] => []
  | m :: ms => .comma :: memberTokens m ++ membersTokens ms

end

/-! ## Spellings of tokens -/

/-- The tokens of one character. -/
def signs : List (Token × Char) :=
  [(.openArray, '['), (.closeArray, ']'), (.openObject, '\x7b'), (.closeObject, '\x7d'),
   (.comma, ','), (.colon, ':')]

/-- The tokens that are words. -/
def words : List (Token × List Char) :=
  [(.null, ['n', 'u', 'l', 'l']), (.bool true, ['t', 'r', 'u', 'e']),
   (.bool false, ['f', 'a', 'l', 's', 'e'])]

/-- One or more digits. -/
def IsDigits (ds : List Char) : Prop := ds ≠ [] ∧ ∀ c ∈ ds, '0' ≤ c ∧ c ≤ '9'

/-- A point and digits, or nothing. -/
inductive IsFraction : List Char → Prop where
  | none : IsFraction []
  | some {ds : List Char} (hds : IsDigits ds) : IsFraction ('.' :: ds)

/-- A mark and digits, maybe with a sign, or nothing. -/
inductive IsExponent : List Char → Prop where
  | none : IsExponent []
  | unsigned {e : Char} {ds : List Char} (he : e = 'e' ∨ e = 'E') (hds : IsDigits ds) :
      IsExponent (e :: ds)
  | signed {e s : Char} {ds : List Char} (he : e = 'e' ∨ e = 'E') (hs : s = '+' ∨ s = '-')
      (hds : IsDigits ds) : IsExponent (e :: s :: ds)

/-- **A text inside quotes**, with the units that it stands for.  A character stands for itself,
if it need not be escaped. -/
inductive Quotes : List Nat → List Char → Prop where
  | nil : Quotes [] []
  | plain {units : List Nat} {cs : List Char} (c : Char) (hquote : c ≠ '"') (hslash : c ≠ '\\')
      (hcontrol : 0x20 ≤ c.toNat) (h : Quotes units cs) : Quotes (c.toNat :: units) (c :: cs)
  | letter {units : List Nat} {cs : List Char} {c : Char} {unit : Nat}
      (hc : escapeOf c = some unit) (h : Quotes units cs) :
      Quotes (unit :: units) ('\\' :: c :: cs)
  | hex {units : List Nat} {cs ds : List Char} {unit : Nat} (hlength : ds.length = 4)
      (hds : Hex.ofDigits? ds = some unit) (h : Quotes units cs) :
      Quotes (unit :: units) ('\\' :: 'u' :: (ds ++ cs))

/-- **The spellings of a token.** -/
inductive Token.Spelled : Token → List Char → Prop where
  | sign {t : Token} {c : Char} (h : (t, c) ∈ signs) : Spelled t [c]
  | word {t : Token} {w : List Char} (h : (t, w) ∈ words) : Spelled t w
  | number (n : Numeral) (hfraction : IsFraction n.fraction) (hexponent : IsExponent n.exponent) :
      Spelled (.number n) n.spelling
  | text {units : List Nat} {cs : List Char} (h : Quotes units cs) :
      Spelled (.text (charsOfUnits units)) ('"' :: (cs ++ ['"']))

/-! ## Spellings of values -/

/-- **Tokens laid out in a text**, with white space anywhere around them. -/
inductive Lays : List Token → List Char → Prop where
  | nil : Lays [] []
  | space {ts : List Token} {cs : List Char} {c : Char} (hc : isSpace c = true) (h : Lays ts cs) :
      Lays ts (c :: cs)
  | token {ts : List Token} {cs w : List Char} {t : Token} (ht : t.Spelled w) (h : Lays ts cs) :
      Lays (t :: ts) (w ++ cs)

/-- **A text spells a value.** -/
def Spells (v : Json) (text : List Char) : Prop := Lays v.tokens text

/-! ## What follows a number -/

def Token.isNumber : Token → Bool
  | .number _ => true
  | _ => false

/-- What may follow a value. -/
def closing : List Token := [.comma, .closeArray, .closeObject]

/-- No number runs into what follows it. -/
def Separated (ts : List Token) : Prop :=
  ts.IsChain fun t t' => t.isNumber = true → t' ∈ closing

/-- What may stand behind a value. -/
structure Follows (ts : List Token) : Prop where
  head : ∀ t ∈ ts.head?, t ∈ closing
  separated : Separated ts

theorem follows_nil : Follows [] := ⟨nofun, List.isChain_nil⟩

theorem Separated.cons {t : Token} {ts : List Token} (ht : t.isNumber = false) (h : Separated ts) :
    Separated (t :: ts) :=
  List.isChain_cons.2 ⟨fun _ _ hn => absurd (ht.symm.trans hn) (by decide), h⟩

theorem Separated.number {n : Numeral} {ts : List Token} (h : Follows ts) :
    Separated (.number n :: ts) :=
  List.isChain_cons.2 ⟨fun t ht _ => h.head t ht, h.separated⟩

theorem Separated.follows {t : Token} {ts : List Token} (ht : t ∈ closing) (h : Separated ts) :
    Follows (t :: ts) := by
  refine ⟨fun t' ht' => ?_, ?_⟩
  · rwa [← Option.some.inj (Option.mem_def.1 ht')]
  · simp only [closing, List.mem_cons, List.not_mem_nil, or_false] at ht
    rcases ht with rfl | rfl | rfl <;> exact h.cons rfl

mutual

/-- **The numbers of a value are separated** from what follows them. -/
theorem separated_tokens : ∀ (v : Json) {ts : List Token}, Follows ts → Separated (v.tokens ++ ts)
  | .null, _, h | .bool _, _, h | .text _, _, h => h.separated.cons rfl
  | .number _, _, h => .number h
  | .array [], _, h | .object [], _, h => (h.separated.cons rfl).cons rfl
  | .array (v :: vs), ts, h => by
    have hclose : Follows (.closeArray :: ts) := h.separated.follows (by decide)
    rw [tokens]
    simp only [List.cons_append, List.nil_append, List.append_assoc]
    exact (separated_tokens v (follows_elementTokens vs hclose)).cons rfl
  | .object (m :: ms), ts, h => by
    have hclose : Follows (.closeObject :: ts) := h.separated.follows (by decide)
    rw [tokens]
    simp only [List.cons_append, List.nil_append, List.append_assoc]
    exact (separated_memberTokens m (follows_membersTokens ms hclose)).cons rfl

theorem follows_elementTokens :
    ∀ (vs : List Json) {ts : List Token}, Follows ts → Follows (elementTokens vs ++ ts)
  | [], _, h => h
  | v :: vs, ts, h => by
    rw [elementTokens]
    simp only [List.cons_append, List.append_assoc]
    exact (separated_tokens v (follows_elementTokens vs h)).follows (by decide)

theorem separated_memberTokens :
    ∀ (m : Member) {ts : List Token}, Follows ts → Separated (memberTokens m ++ ts)
  | (_, v), _, h => ((separated_tokens v h).cons rfl).cons rfl

theorem follows_membersTokens :
    ∀ (ms : List Member) {ts : List Token}, Follows ts → Follows (membersTokens ms ++ ts)
  | [], _, h => h
  | m :: ms, ts, h => by
    rw [membersTokens]
    simp only [List.cons_append, List.append_assoc]
    exact (separated_memberTokens m (follows_membersTokens ms h)).follows (by decide)

end

end Json
end PadScout
