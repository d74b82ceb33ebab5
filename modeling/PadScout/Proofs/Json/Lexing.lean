import PadScout.Proofs.Json.Spelling
import PadScout.Proofs.Text.Hex

/-! # The lexer finds the tokens of a text

A text in which tokens are laid out is cut into these tokens (`Scan.run_of_lays`), and so a text
that spells a value is cut into the tokens of the value (`tokens?_of_spells`).  White space leaves
no token.  Inside quotes every unit is read back, however it is escaped (`Scan.run_quotes`).  A
number is read part by part (`Scan.run_numeral`); its last digits end with the number, because
what follows is white space, a comma or a closing bracket (`Ends`).
-/
namespace PadScout
namespace Json
namespace Scan

/-! ## Steps -/

/-- A character that completes no token. -/
theorem run_cons_of_silent {s s' : Scan} {c : Char} (h : s.next c = some (s', []))
    (cs : List Char) : s.run (c :: cs) = s'.run cs := by
  rw [run, h]
  exact Option.map_id'

/-- What a character completes stands in front of what comes after it. -/
theorem run_cons_eq_some_iff {s : Scan} {c : Char} {cs : List Char} {ts : List Token} :
    s.run (c :: cs) = some ts ↔
      ∃ s' out rest, s.next c = some (s', out) ∧ s'.run cs = some rest ∧ ts = out ++ rest := by
  rw [run]
  constructor
  · intro h
    split at h
    · cases h
    · next s' out hnext =>
      obtain ⟨rest, hrest, rfl⟩ := Option.map_eq_some_iff.1 h
      exact ⟨s', out, rest, hnext, hrest, rfl⟩
  · rintro ⟨s', out, rest, hnext, hrest, rfl⟩
    rw [hnext]
    dsimp only
    rw [hrest]
    rfl

/-- A bracket, a comma or a colon is a token by itself. -/
theorem run_sign {c : Char} {t : Token} (hsign : between.next c = some (between, [t]))
    {cs : List Char} {ts : List Token} (h : between.run cs = some ts) :
    between.run (c :: cs) = some (t :: ts) :=
  run_cons_eq_some_iff.2 ⟨between, [t], ts, hsign, h, rfl⟩

/-- The letters of a word make a token once all of them are read. -/
theorem run_word {rest : List Char} {t : Token} (hrest : rest ≠ []) {cs : List Char}
    {ts : List Token} (h : between.run cs = some ts) :
    (word rest t).run (rest ++ cs) = some (t :: ts) := by
  induction rest with
  | nil => exact absurd rfl hrest
  | cons e rest ih =>
    rw [List.cons_append]
    cases rest with
    | nil =>
      have hlast : (word [e] t).next e = some (between, [t]) := by simp [next]
      exact run_cons_eq_some_iff.2 ⟨between, [t], ts, hlast, h, rfl⟩
    | cons d rest =>
      have hnext : (word (e :: d :: rest) t).next e = some (word (d :: rest) t, []) := by
        simp [next]
      rw [run_cons_of_silent hnext]
      exact ih (List.cons_ne_nil d rest)

/-! ## Texts -/

/-- The digits of an escaped unit are put together. -/
theorem run_hex (units : List Nat) {ds : List Char} {value unit : Nat}
    (h : Hex.ofDigitsFrom? value ds = some unit) (hds : ds ≠ []) (cs : List Char) :
    (hex units value ds.length).run (ds ++ cs) = (text (unit :: units)).run cs := by
  induction ds generalizing value with
  | nil => exact absurd rfl hds
  | cons c ds ih =>
    obtain ⟨d, hd, hrest⟩ := Option.bind_eq_some_iff.1 h
    rw [List.cons_append]
    cases ds with
    | nil =>
      cases hrest
      refine run_cons_of_silent ?_ cs
      rw [next, hd]
      rfl
    | cons b ds =>
      have hnext : (hex units value (c :: b :: ds).length).next c =
          some (hex units (16 * value + d) (b :: ds).length, []) := by
        rw [next, hd]
        rfl
      rw [run_cons_of_silent hnext]
      exact ih hrest (List.cons_ne_nil b ds)

/-- **A text inside quotes** is read unit by unit. -/
theorem run_quotes {units : List Nat} {body : List Char} (h : Quotes units body)
    (read : List Nat) (cs : List Char) :
    (text read).run (body ++ cs) = (text (units.reverse ++ read)).run cs := by
  induction h generalizing read with
  | nil => rfl
  | @plain units body c hquote hslash hcontrol _ ih =>
    have hnext : (text read).next c = some (text (c.toNat :: read), []) := by
      rw [next, if_neg hquote, if_neg hslash, if_neg (Nat.not_lt_of_le hcontrol)]
    rw [List.cons_append, run_cons_of_silent hnext, ih, List.reverse_cons, List.append_assoc]
    rfl
  | @letter units body c unit hc _ ih =>
    have hu : c ≠ 'u' := by
      rintro rfl
      cases hc
    have hnext : (escape read).next c = some (text (unit :: read), []) := by
      rw [next, if_neg hu, hc]
    rw [List.cons_append, List.cons_append, run_cons_of_silent rfl, run_cons_of_silent hnext, ih,
      List.reverse_cons, List.append_assoc]
    rfl
  | @hex units body ds unit hlength hds _ ih =>
    have hne : ds ≠ [] := by
      rintro rfl
      cases hlength
    have hfrom : Hex.ofDigitsFrom? 0 ds = some unit := by
      cases ds with
      | nil => exact absurd rfl hne
      | cons d ds => exact hds
    have hdigits := run_hex read hfrom hne (body ++ cs)
    rw [hlength] at hdigits
    rw [List.cons_append, List.cons_append, run_cons_of_silent rfl, run_cons_of_silent rfl,
      List.append_assoc, hdigits, ih, List.reverse_cons, List.append_assoc]
    rfl

theorem run_quoted {units : List Nat} {body cs : List Char} {ts : List Token}
    (hbody : Quotes units body) (h : between.run cs = some ts) :
    between.run ('"' :: (body ++ '"' :: cs)) = some (.text (charsOfUnits units) :: ts) := by
  have hend : (text (units.reverse ++ [])).next '"' =
      some (between, [.text (charsOfUnits units)]) := by
    rw [next, if_pos rfl, List.append_nil, List.reverse_reverse]
  rw [run_cons_of_silent rfl, run_quotes hbody]
  exact run_cons_eq_some_iff.2 ⟨between, _, ts, hend, h, rfl⟩

/-! ## Numbers -/

section Numbers
variable (negative : Bool) (whole : Nat) {fraction exponent : List Char}

theorem digit?_digitChar {d : Nat} (h : d < 10) : Decimal.digit? d.digitChar = some d :=
  (by decide : ∀ d < 10, Decimal.digit? (Nat.digitChar d) = some d) d h

theorem digit?_of_isDigit {c : Char} (h : '0' ≤ c ∧ c ≤ '9') :
    Decimal.digit? c = some (c.toNat - '0'.toNat) :=
  if_pos h

/-- The lexer behind a sign, if there is one. -/
def signed (negative : Bool) : Scan :=
  if negative then number .sign ⟨true, 0, [], []⟩ else between

theorem run_signed (cs : List Char) :
    between.run ((if negative then ['-'] else []) ++ cs) = (signed negative).run cs := by
  cases negative with
  | false => rfl
  | true => exact run_cons_of_silent rfl cs

/-- **The whole part**: digits are put together as long as they go on. -/
theorem run_digits (n : Nat) (cs : List Char) :
    (signed negative).run (Decimal.digits n ++ cs) =
      (number .whole ⟨negative, n, [], []⟩).run cs := by
  unfold Decimal.digits
  induction n using Nat.base_induction 10 (by decide) generalizing cs with
  | single d hd =>
    have hnext : (signed negative).next d.digitChar =
        some (number .whole ⟨negative, d, [], []⟩, []) :=
      (by decide : ∀ negative, ∀ d < 10, (signed negative).next (Nat.digitChar d) =
        some (number .whole ⟨negative, d, [], []⟩, [])) negative d hd
    rw [Nat.toDigits_of_lt_base hd, List.cons_append, run_cons_of_silent hnext, List.nil_append]
  | digit n d hd hn ih =>
    have hnext : (number .whole ⟨negative, n, [], []⟩).next d.digitChar =
        some (number .whole ⟨negative, 10 * n + d, [], []⟩, []) := by
      have hgo : nextOfNumber .whole ⟨negative, n, [], []⟩ d.digitChar =
          some (some (number .whole ⟨negative, 10 * n + d, [], []⟩)) := by
        unfold nextOfNumber
        dsimp only
        rw [digit?_digitChar hd]
        exact if_neg (Nat.ne_of_gt hn)
      rw [next, hgo]
    rw [← Nat.toDigits_append_toDigits (by decide) hn hd, List.append_assoc, ih,
      Nat.toDigits_of_lt_base hd, List.cons_append, run_cons_of_silent hnext, List.nil_append]

/-- Digits behind a point or a mark are kept as they are: any of the parts `S` goes on with a
digit, and then the part is `last`. -/
theorem run_kept {S : List Part} {last : Part} (hlast : last ∈ S) {write : List Char → Numeral}
    (hstep : ∀ part ∈ S, ∀ ds c, '0' ≤ c ∧ c ≤ '9' →
      nextOfNumber part (write ds) c = some (some (number last (write (ds ++ [c])))))
    {part : Part} (hpart : part ∈ S) {ds : List Char} (hds : IsDigits ds) (read cs : List Char) :
    (number part (write read)).run (ds ++ cs) = (number last (write (read ++ ds))).run cs := by
  obtain ⟨hne, hdigits⟩ := hds
  induction ds generalizing part read with
  | nil => exact absurd rfl hne
  | cons c ds ih =>
    rw [List.forall_mem_cons] at hdigits
    have hnext : (number part (write read)).next c =
        some (number last (write (read ++ [c])), []) := by
      rw [next, hstep part hpart read c hdigits.1]
    rw [List.cons_append, run_cons_of_silent hnext]
    cases ds with
    | nil => rfl
    | cons d ds =>
      rw [ih hlast (read ++ [c]) (List.cons_ne_nil d ds) hdigits.2, List.append_assoc]
      rfl

/-- **The fraction.** -/
theorem run_fraction (hfraction : IsFraction fraction) :
    ∃ part ∈ [Part.whole, .fraction], ∀ cs,
      (number .whole ⟨negative, whole, [], []⟩).run (fraction ++ cs) =
        (number part ⟨negative, whole, fraction, []⟩).run cs := by
  cases hfraction with
  | none => exact ⟨.whole, by decide, fun cs => rfl⟩
  | @some ds hds =>
    refine ⟨.fraction, by decide, fun cs => ?_⟩
    have hstep : ∀ part ∈ [Part.point, .fraction], ∀ ds c, '0' ≤ c ∧ c ≤ '9' →
        nextOfNumber part ⟨negative, whole, '.' :: ds, []⟩ c =
          some (some (number .fraction ⟨negative, whole, '.' :: (ds ++ [c]), []⟩)) := by
      intro part hpart ds c hc
      simp only [List.mem_cons, List.not_mem_nil, or_false] at hpart
      rcases hpart with rfl | rfl <;> simp [nextOfNumber, digit?_of_isDigit hc]
    rw [List.cons_append, run_cons_of_silent rfl]
    exact run_kept (by decide) hstep (List.mem_cons_self) hds [] cs

/-- **The exponent**, which may follow the whole part or the fraction. -/
theorem run_exponent (fraction : List Char) {part : Part} (hpart : part ∈ [Part.whole, .fraction])
    (hexponent : IsExponent exponent) :
    ∃ part', mayEnd part' = true ∧ ∀ cs,
      (number part ⟨negative, whole, fraction, []⟩).run (exponent ++ cs) =
        (number part' ⟨negative, whole, fraction, exponent⟩).run cs := by
  simp only [List.mem_cons, List.not_mem_nil, or_false] at hpart
  have hstep : ∀ mark : List Char, ∀ part ∈ [Part.mark, .markSign, .exponent], ∀ ds c,
      '0' ≤ c ∧ c ≤ '9' → nextOfNumber part ⟨negative, whole, fraction, mark ++ ds⟩ c =
        some (some (number .exponent ⟨negative, whole, fraction, mark ++ (ds ++ [c])⟩)) := by
    intro mark part hpart ds c hc
    simp only [List.mem_cons, List.not_mem_nil, or_false] at hpart
    rcases hpart with rfl | rfl | rfl <;> simp [nextOfNumber, digit?_of_isDigit hc]
  have hmark : ∀ e, e = 'e' ∨ e = 'E' → (number part ⟨negative, whole, fraction, []⟩).next e =
      some (number .mark ⟨negative, whole, fraction, [e]⟩, []) := by
    rintro e (rfl | rfl) <;> rcases hpart with rfl | rfl <;> rfl
  cases hexponent with
  | none => exact ⟨part, by rcases hpart with rfl | rfl <;> rfl, fun cs => rfl⟩
  | @unsigned e ds he hds =>
    refine ⟨.exponent, rfl, fun cs => ?_⟩
    rw [List.cons_append, run_cons_of_silent (hmark e he)]
    exact run_kept (by decide) (hstep [e]) (by decide : Part.mark ∈ _) hds [] cs
  | @signed e s ds he hs hds =>
    refine ⟨.exponent, rfl, fun cs => ?_⟩
    have hsign : (number .mark ⟨negative, whole, fraction, [e]⟩).next s =
        some (number .markSign ⟨negative, whole, fraction, [e, s]⟩, []) := by
      rcases hs with rfl | rfl <;> rfl
    rw [List.cons_append, List.cons_append, run_cons_of_silent (hmark e he),
      run_cons_of_silent hsign]
    exact run_kept (by decide) (hstep [e, s]) (by decide : Part.markSign ∈ _) hds [] cs

end Numbers

/-- What may stand behind a number. -/
def Ends (cs : List Char) : Prop :=
  ∀ c ∈ cs.head?, c ∈ [' ', '\n', '\t', '\r', ',', ']', '\x7d']

/-- **A number ends** where white space, a comma or a closing bracket follows. -/
theorem run_number {part : Part} (hpart : mayEnd part = true) {n : Numeral} {cs : List Char}
    {ts : List Token} (hcs : Ends cs) (h : between.run cs = some ts) :
    (number part n).run cs = some (.number n :: ts) := by
  cases cs with
  | nil =>
    cases h
    exact if_pos hpart
  | cons c cs =>
    have hstop : (number part n).next c = (between.next c).map fun p =>
        (p.1, .number n :: p.2) := by
      have hc := hcs c rfl
      simp only [List.mem_cons, List.not_mem_nil, or_false] at hc
      cases part with
      | sign | point | mark | markSign => cases hpart
      | whole | fraction | exponent =>
        rcases hc with rfl | rfl | rfl | rfl | rfl | rfl | rfl <;> rfl
    obtain ⟨s, out, rest, hnext, hrest, rfl⟩ := run_cons_eq_some_iff.1 h
    rw [hnext] at hstop
    exact run_cons_eq_some_iff.2 ⟨s, .number n :: out, rest, hstop, hrest, rfl⟩

/-- **A number** is read part by part. -/
theorem run_numeral {n : Numeral} (hfraction : IsFraction n.fraction)
    (hexponent : IsExponent n.exponent) {cs : List Char} {ts : List Token} (hcs : Ends cs)
    (h : between.run cs = some ts) : between.run (n.spelling ++ cs) = some (.number n :: ts) := by
  obtain ⟨negative, whole, fraction, exponent⟩ := n
  obtain ⟨part, hpart, hrunFraction⟩ := run_fraction negative whole hfraction
  obtain ⟨part', hend, hrunExponent⟩ := run_exponent negative whole fraction hpart hexponent
  rw [Numeral.spelling]
  simp only [List.append_assoc]
  rw [run_signed, run_digits, hrunFraction, hrunExponent]
  exact run_number hend hcs h

/-! ## Tokens -/

/-- What may follow a value begins in a way that ends a number. -/
theorem ends_of_lays {ts : List Token} {cs : List Char} (h : Lays ts cs)
    (hts : ∀ t ∈ ts.head?, t ∈ closing) : Ends cs := by
  cases h with
  | nil => nofun
  | space hc =>
    intro d hd
    cases hd
    simp only [isSpace, Bool.or_eq_true, beq_iff_eq] at hc
    rcases hc with ((rfl | rfl) | rfl) | rfl <;> decide
  | token ht =>
    have hclosing := hts _ rfl
    cases ht with
    | sign hsign =>
      intro d hd
      cases hd
      simp only [signs, List.mem_cons, Prod.mk.injEq, List.not_mem_nil, or_false] at hsign
      rcases hsign with ⟨rfl, rfl⟩ | ⟨rfl, rfl⟩ | ⟨rfl, rfl⟩ | ⟨rfl, rfl⟩ | ⟨rfl, rfl⟩ | ⟨rfl, rfl⟩ <;>
        revert hclosing <;> decide
    | word hword =>
      simp only [words, List.mem_cons, Prod.mk.injEq, List.not_mem_nil, or_false] at hword
      rcases hword with ⟨rfl, rfl⟩ | ⟨rfl, rfl⟩ | ⟨rfl, rfl⟩ <;> exact absurd hclosing (by decide)
    | number n => simp [closing] at hclosing
    | text => simp [closing] at hclosing

/-- **Tokens that are laid out in a text** are found in it. -/
theorem run_of_lays {ts : List Token} {cs : List Char} (h : Lays ts cs) (hts : Separated ts) :
    between.run cs = some ts := by
  induction h with
  | nil => rfl
  | @space ts cs c hc _ ih =>
    have hnext : between.next c = some (between, []) := if_pos hc
    rw [run_cons_of_silent hnext, ih hts]
  | @token ts cs w t ht hlays ih =>
    rw [Separated, List.isChain_cons] at hts
    have hrest := ih hts.2
    cases ht with
    | sign hsign =>
      refine run_sign ?_ hrest
      simp only [signs, List.mem_cons, Prod.mk.injEq, List.not_mem_nil, or_false] at hsign
      rcases hsign with ⟨rfl, rfl⟩ | ⟨rfl, rfl⟩ | ⟨rfl, rfl⟩ | ⟨rfl, rfl⟩ | ⟨rfl, rfl⟩ | ⟨rfl, rfl⟩ <;>
        rfl
    | word hword =>
      simp only [words, List.mem_cons, Prod.mk.injEq, List.not_mem_nil, or_false] at hword
      rcases hword with ⟨rfl, rfl⟩ | ⟨rfl, rfl⟩ | ⟨rfl, rfl⟩ <;>
        exact (run_cons_of_silent rfl _).trans (run_word (by decide) hrest)
    | number n hfraction hexponent =>
      exact run_numeral hfraction hexponent (ends_of_lays hlays fun t' ht' => hts.1 t' ht' rfl) hrest
    | @text units body hbody =>
      rw [List.cons_append, List.append_assoc]
      exact run_quoted hbody hrest

end Scan

/-- **The tokens of a value** are found in every text that spells it. -/
theorem tokens?_of_spells {v : Json} {text : List Char} (h : Spells v text) :
    tokens? text = some v.tokens := by
  have hseparated := separated_tokens v follows_nil
  rw [List.append_nil] at hseparated
  exact Scan.run_of_lays h hseparated

end Json
end PadScout
