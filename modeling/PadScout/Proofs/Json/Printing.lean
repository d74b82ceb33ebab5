import PadScout.Proofs.Json.Parsing

/-! # Printed values are read back

What the printer writes spells the value that it writes (`lays_render`), so it is read back
(`parse?_pretty`).  Indentation is white space, and the printer escapes just the characters that
cannot stand inside quotes as they are (`quotes_charText`).
-/
namespace PadScout
namespace Json

/-- A value all of whose numbers are natural numbers. -/
inductive IsWhole : Json → Prop where
  | null : IsWhole .null
  | bool (b : Bool) : IsWhole (.bool b)
  | number (n : Nat) : IsWhole (.ofNat n)
  | text (s : Option (List Char)) : IsWhole (.text s)
  | array (vs : List Json) : (∀ v ∈ vs, IsWhole v) → IsWhole (.array vs)
  | object (ms : List Member) : (∀ m ∈ ms, IsWhole m.2) → IsWhole (.object ms)

/-! ## Texts -/

/-- The characters that have an escape of one letter. -/
theorem charText_of_mem {c : Char} (h : c ∈ ['"', '\\', '\x08', '\x0c', '\n', '\r', '\t']) :
    ∃ e, charText c = ['\\', e] ∧ escapeOf e = some c.toNat := by
  simp only [List.mem_cons, List.not_mem_nil, or_false] at h
  rcases h with rfl | rfl | rfl | rfl | rfl | rfl | rfl
  · exact ⟨'"', rfl, rfl⟩
  · exact ⟨'\\', rfl, rfl⟩
  · exact ⟨'b', rfl, rfl⟩
  · exact ⟨'f', rfl, rfl⟩
  · exact ⟨'n', rfl, rfl⟩
  · exact ⟨'r', rfl, rfl⟩
  · exact ⟨'t', rfl, rfl⟩

theorem charText_of_notMem {c : Char}
    (h : c ∉ ['"', '\\', '\x08', '\x0c', '\n', '\r', '\t']) :
    charText c = if c.toNat < 0x20 then controlText c else [c] := by
  simp only [List.mem_cons, List.not_mem_nil, or_false, not_or] at h
  simp [charText, h]

/-- **A printed character** stands for itself, whether it is escaped or not. -/
theorem quotes_charText (c : Char) {units : List Nat} {cs : List Char} (h : Quotes units cs) :
    Quotes (c.toNat :: units) (charText c ++ cs) := by
  by_cases hmem : c ∈ ['"', '\\', '\x08', '\x0c', '\n', '\r', '\t']
  · obtain ⟨e, htext, he⟩ := charText_of_mem hmem
    rw [htext]
    exact .letter he h
  · rw [charText_of_notMem hmem]
    split
    · next hcontrol =>
      have hlength : (Hex.padded 4 c.toNat).length = 4 :=
        (by decide : ∀ n < 0x20, (Hex.padded 4 n).length = 4) _ hcontrol
      exact .hex hlength (Hex.ofDigits?_padded 4 c.toNat) h
    · next hplain =>
      have hquote : c ≠ '"' := fun h => hmem (by simp [h])
      have hbackslash : c ≠ '\\' := fun h => hmem (by simp [h])
      exact .plain c hquote hbackslash (Nat.le_of_not_lt hplain) h

theorem quotes_charTexts (s : List Char) : Quotes (s.map Char.toNat) (s.flatMap charText) := by
  induction s with
  | nil => exact .nil
  | cons c s ih => exact quotes_charText c ih

/-- The code points of a text are none of the halves of surrogate pairs. -/
theorem charsOfUnits_toNat (s : List Char) : charsOfUnits (s.map Char.toNat) = some s := by
  induction s with
  | nil => rfl
  | cons c s ih =>
    have hvalid : c.toNat < 0xD800 ∨ 0xDFFF < c.toNat ∧ c.toNat < 0x110000 := c.valid
    rw [List.map_cons, charsOfUnits.eq_def]
    dsimp only
    rw [if_neg (by omega), if_neg (by omega), ih, Char.ofNat_toNat]
    rfl

/-- **A printed text** is spelled, also if it has no value. -/
theorem spelled_quoted (s : Option (List Char)) : (Token.text s).Spelled (quoted s) := by
  cases s with
  | none =>
    have hdigits : Hex.ofDigits? ['d', '8', '0', '0'] = some 0xD800 := by decide
    exact .text (.hex rfl hdigits .nil)
  | some s =>
    have hspelled := Token.Spelled.text (quotes_charTexts s)
    rwa [charsOfUnits_toNat] at hspelled

/-! ## Values -/

theorem lays_newline (level : Nat) {ts : List Token} {cs : List Char} (h : Lays ts cs) :
    Lays ts (newline level ++ cs) := by
  have hblanks : ∀ n, Lays ts (List.replicate n ' ' ++ cs) := by
    intro n
    induction n with
    | zero => exact h
    | succ n ih => exact .space rfl ih
  exact .space rfl (hblanks _)

theorem lays_sign {t : Token} {c : Char} (hsign : (t, c) ∈ signs) {ts : List Token}
    {cs : List Char} (h : Lays ts cs) : Lays (t :: ts) (c :: cs) :=
  .token (.sign hsign) h

theorem lays_word {t : Token} {w : List Char} (hword : (t, w) ∈ words) {ts : List Token}
    {cs : List Char} (h : Lays ts cs) : Lays (t :: ts) (w ++ cs) :=
  .token (.word hword) h

/-- The tokens of the value are laid out in its printed form, whatever it is part of. -/
def Printed (v : Json) : Prop :=
  ∀ level cs ts, Lays ts cs → Lays (v.tokens ++ ts) (render level v ++ cs)

section Lists
variable (level : Nat) {cs : List Char} {ts : List Token} (h : Lays ts cs)
include h

theorem lays_renderElements {vs : List Json} (hvs : ∀ v ∈ vs, Printed v) :
    Lays (elementTokens vs ++ ts) (renderElements level vs ++ cs) := by
  induction vs with
  | nil => exact h
  | cons v vs ih =>
    have hrest := ih fun w hw => hvs w (List.mem_cons_of_mem v hw)
    have hvalue := hvs v List.mem_cons_self level _ _ hrest
    rw [renderElements, elementTokens]
    simp only [List.cons_append, List.append_assoc]
    exact lays_sign (by decide) (lays_newline level hvalue)

theorem lays_renderMember {m : Member} (hm : Printed m.2) :
    Lays (memberTokens m ++ ts) (renderMember level m ++ cs) := by
  have hvalue := hm level cs ts h
  rw [renderMember, memberTokens]
  simp only [List.cons_append, List.nil_append, List.append_assoc]
  exact .token (spelled_quoted m.1) (lays_sign (by decide) (.space rfl hvalue))

theorem lays_renderMembers {ms : List Member} (hms : ∀ m ∈ ms, Printed m.2) :
    Lays (membersTokens ms ++ ts) (renderMembers level ms ++ cs) := by
  induction ms with
  | nil => exact h
  | cons m ms ih =>
    have hrest := ih fun n hn => hms n (List.mem_cons_of_mem m hn)
    have hmember := lays_renderMember level hrest (hms m List.mem_cons_self)
    rw [renderMembers, membersTokens]
    simp only [List.cons_append, List.append_assoc]
    exact lays_sign (by decide) (lays_newline level hmember)

end Lists

/-- **Printed values are spelled.** -/
theorem lays_render {v : Json} (hv : v.IsWhole) : Printed v := by
  induction hv with
  | null =>
    intro level cs ts h
    exact lays_word (w := ['n', 'u', 'l', 'l']) (by decide) h
  | bool b =>
    intro level cs ts h
    cases b
    · exact lays_word (w := ['f', 'a', 'l', 's', 'e']) (by decide) h
    · exact lays_word (w := ['t', 'r', 'u', 'e']) (by decide) h
  | number n =>
    intro level cs ts h
    exact .token (.number (.ofNat n) .none .none) h
  | text s =>
    intro level cs ts h
    exact .token (spelled_quoted s) h
  | array vs _ ih =>
    intro level cs ts h
    have hclose := lays_sign (t := .closeArray) (c := ']') (by decide) h
    cases vs with
    | nil => exact lays_sign (by decide) hclose
    | cons v vs =>
      have hrest := lays_renderElements (level + 1) (lays_newline level hclose) fun w hw =>
        ih w (List.mem_cons_of_mem v hw)
      have hfirst := ih v List.mem_cons_self (level + 1) _ _ hrest
      rw [render, tokens]
      simp only [List.cons_append, List.nil_append, List.append_assoc]
      exact lays_sign (by decide) (lays_newline (level + 1) hfirst)
  | object ms _ ih =>
    intro level cs ts h
    have hclose := lays_sign (t := .closeObject) (c := '\x7d') (by decide) h
    cases ms with
    | nil => exact lays_sign (by decide) hclose
    | cons m ms =>
      have hrest := lays_renderMembers (level + 1) (lays_newline level hclose) fun n hn =>
        ih n (List.mem_cons_of_mem m hn)
      have hfirst := lays_renderMember (level + 1) hrest (ih m List.mem_cons_self)
      rw [render, tokens]
      simp only [List.cons_append, List.nil_append, List.append_assoc]
      exact lays_sign (by decide) (lays_newline (level + 1) hfirst)

theorem spells_pretty {v : Json} (hv : v.IsWhole) : Spells v v.pretty.toList := by
  have hprinted := lays_render hv 0 [] [] .nil
  rw [List.append_nil, List.append_nil] at hprinted
  rwa [Spells, pretty, String.toList_ofList]

/-- **What is printed is read back.** -/
theorem parse?_pretty {v : Json} (hv : v.IsWhole) : parse? v.pretty.toList = some v :=
  parse?_of_spells (spells_pretty hv)

end Json
end PadScout
