import RoadWeather.Json.Printer
import RoadWeather.Proofs.JsonGrammar

/-!
# Values read back from their text

A written value has blanks at most after its brackets, colons and commas and before its closing
brackets, and every number and string in it has one text only. A text of this kind spells the value
(`Spells`), and both the compact text of a value and the indented one do. Since such a text is one
of the grammar, a reader finds the value in it, whatever follows it.

## Two ways of spelling

`Json.Spells` is about values and narrow, `Draft.Spells` is about drafts and wide. The first is what
a writer can be shown to do without a thought of reading, one constructor of a value after the
other. The second is what a reader can be shown to understand. They meet once
(`Draft.spells_ofJson`), for values in which every number has a text that stands for it
(`IsExact`): whole numbers of 64 bits and finite doubles. A double that is not finite is written as
`null`, and so never gets that far.
-/

namespace RoadWeather.Json

namespace Draft

/-! ## Strings -/

theorem codeUnit?_control : ∀ n < 0x20,
    codeUnit? '0' '0' (Nat.digitChar (n / 16)) (Nat.digitChar (n % 16)) = some n := by
  decide

theorem spellsPieces_escape (c : Char) :
    ∃ p, (∀ {ps s}, SpellsPieces ps s → SpellsPieces (p :: ps) (escape c ++ s)) ∧
      ∀ atEnd ps, joinPieces atEnd (p :: ps) = (joinPieces atEnd ps).map (c :: ·) := by
  unfold escape
  split
  · next h => exact ⟨.char '"', .escape rfl, fun _ _ ↦ h ▸ rfl⟩
  split
  · next h => exact ⟨.char '\\', .escape rfl, fun _ _ ↦ h ▸ rfl⟩
  split
  · next h => exact ⟨.char '\x08', .escape rfl, fun _ _ ↦ h ▸ rfl⟩
  split
  · next h => exact ⟨.char '\x0c', .escape rfl, fun _ _ ↦ h ▸ rfl⟩
  split
  · next h => exact ⟨.char '\n', .escape rfl, fun _ _ ↦ h ▸ rfl⟩
  split
  · next h => exact ⟨.char '\r', .escape rfl, fun _ _ ↦ h ▸ rfl⟩
  split
  · next h => exact ⟨.char '\t', .escape rfl, fun _ _ ↦ h ▸ rfl⟩
  split
  · next h =>
    refine ⟨.code c.toNat, .code (codeUnit?_control c.toNat h), fun atEnd ps ↦ ?_⟩
    have htrailing : isTrailing c.toNat = false := by
      rw [isTrailing, Bool.and_eq_false_imp]
      intro hle
      have := of_decide_eq_true hle
      omega
    have hleading : isLeading c.toNat = false := by
      rw [isLeading, Bool.and_eq_false_imp]
      intro hle
      have := of_decide_eq_true hle
      omega
    rw [joinPieces.eq_def]
    simp only [htrailing, hleading, Bool.false_eq_true, if_false, Char.ofNat_toNat]
  · next hquote hslash _ _ _ _ _ hcontrol =>
    exact ⟨.char c, .char hquote hslash (not_lt.mp hcontrol), fun _ _ ↦ rfl⟩

theorem spellsPieces_flatMap_escape (cs : List Char) :
    ∃ ps, SpellsPieces ps (cs.flatMap escape) ∧ ∀ atEnd, joinPieces atEnd ps = .ok cs := by
  induction cs with
  | nil => exact ⟨[], .nil, fun _ ↦ rfl⟩
  | cons c cs ih =>
    obtain ⟨ps, hps, hjoin⟩ := ih
    obtain ⟨p, hp, hpjoin⟩ := spellsPieces_escape c
    refine ⟨p :: ps, hp hps, fun atEnd ↦ ?_⟩
    rw [hpjoin, hjoin, Except.map]

/-- **A string between quotes is spelled.** -/
theorem spellsString_quote (s : String) : SpellsString (.ok s) (quote s) := by
  obtain ⟨ps, hps, hjoin⟩ := spellsPieces_flatMap_escape s.toList
  refine ⟨ps, _, hps, rfl, ?_⟩
  rw [hjoin, Except.map, String.ofList_toList]

end Draft

/-! ## Spellings -/

mutual

/-- Whether a text, which begins with no blank, spells a value. -/
def Spells : Json → List Char → Prop
  | .null, s => s = ['n', 'u', 'l', 'l']
  | .bool true, s => s = ['t', 'r', 'u', 'e']
  | .bool false, s => s = ['f', 'a', 'l', 's', 'e']
  | .number n, s => s = n.chars
  | .string text, s => s = quote text
  | .array items, s => ∃ rest, s = '[' :: rest ∧ SpellsItems true items rest
  | .object members, s => ∃ rest, s = '\x7b' :: rest ∧ SpellsMembers true members rest

/-- Whether a text spells the items of an array from the opening bracket, or after an item, up to
the closing bracket. -/
def SpellsItems : Bool → List Json → List Char → Prop
  | _, [], s => ∃ blank, IsBlankText blank ∧ s = blank ++ [']']
  | first, item :: items, s => ∃ blank text rest, IsBlankText blank ∧ Spells item text ∧
      SpellsItems false items rest ∧
      s = (if first then [] else [',']) ++ (blank ++ (text ++ rest))

/-- Whether a text spells the members of an object from the opening brace, or after a member, up to
the closing brace. -/
def SpellsMembers : Bool → List (String × Json) → List Char → Prop
  | _, [], s => ∃ blank, IsBlankText blank ∧ s = blank ++ ['\x7d']
  | first, (key, value) :: members, s => ∃ blank blank' text rest, IsBlankText blank ∧
      IsBlankText blank' ∧ Spells value text ∧ SpellsMembers false members rest ∧
      s = (if first then [] else [',']) ++
        (blank ++ (quote key ++ ':' :: (blank' ++ (text ++ rest))))

end

theorem isBlankText_newline (depth : Nat) : IsBlankText (newline depth) := by
  intro c hc
  rcases List.mem_cons.mp hc with rfl | hc
  · rfl
  · rw [List.eq_of_mem_replicate hc]
    rfl

mutual

theorem spells_compact : ∀ j : Json, j.Spells j.compact
  | .null => rfl
  | .bool true => rfl
  | .bool false => rfl
  | .number _ => rfl
  | .string _ => rfl
  | .array [] => ⟨_, rfl, [], isBlankText_nil, rfl⟩
  | .array (item :: items) =>
    ⟨item.compact ++ compactItems items, rfl, [], _, _, isBlankText_nil, spells_compact item,
      spellsItems_compactItems items, rfl⟩
  | .object [] => ⟨_, rfl, [], isBlankText_nil, rfl⟩
  | .object ((key, value) :: members) =>
    ⟨quote key ++ ':' :: (value.compact ++ compactMembers members), by simp [compact], [], [],
      _, _, isBlankText_nil, isBlankText_nil, spells_compact value,
      spellsMembers_compactMembers members, rfl⟩

theorem spellsItems_compactItems : ∀ items, SpellsItems false items (compactItems items)
  | [] => ⟨[], isBlankText_nil, rfl⟩
  | item :: items =>
    ⟨[], item.compact, compactItems items, isBlankText_nil, spells_compact item,
      spellsItems_compactItems items, rfl⟩

theorem spellsMembers_compactMembers :
    ∀ members, SpellsMembers false members (compactMembers members)
  | [] => ⟨[], isBlankText_nil, rfl⟩
  | (key, value) :: members =>
    ⟨[], [], value.compact, compactMembers members, isBlankText_nil, isBlankText_nil,
      spells_compact value, spellsMembers_compactMembers members, by simp [compactMembers]⟩

end

mutual

theorem spells_indented : ∀ (j : Json) (depth : Nat), j.Spells (j.indented depth)
  | .null, _ => rfl
  | .bool true, _ => rfl
  | .bool false, _ => rfl
  | .number _, _ => rfl
  | .string _, _ => rfl
  | .array [], _ => ⟨_, rfl, [], isBlankText_nil, rfl⟩
  | .array (item :: items), depth =>
    ⟨newline (depth + 1) ++ (item.indented (depth + 1) ++ indentedItems depth items),
      by simp [indented], _, _, _, isBlankText_newline _, spells_indented item _,
      spellsItems_indentedItems items depth, rfl⟩
  | .object [], _ => ⟨_, rfl, [], isBlankText_nil, rfl⟩
  | .object ((key, value) :: members), depth =>
    ⟨newline (depth + 1) ++ (quote key ++ ':' :: ([' '] ++ (value.indented (depth + 1) ++
      indentedMembers depth members))), by simp [indented], _, [' '], _, _, isBlankText_newline _,
      isBlankText_space, spells_indented value _, spellsMembers_indentedMembers members depth, rfl⟩

theorem spellsItems_indentedItems :
    ∀ items depth, SpellsItems false items (indentedItems depth items)
  | [], depth => ⟨newline depth, isBlankText_newline depth, rfl⟩
  | item :: items, depth =>
    ⟨newline (depth + 1), item.indented (depth + 1), _, isBlankText_newline _,
      spells_indented item _, spellsItems_indentedItems items depth, by simp [indentedItems]⟩

theorem spellsMembers_indentedMembers :
    ∀ members depth, SpellsMembers false members (indentedMembers depth members)
  | [], depth => ⟨newline depth, isBlankText_newline depth, rfl⟩
  | (key, value) :: members, depth =>
    ⟨newline (depth + 1), [' '], value.indented (depth + 1), _, isBlankText_newline _,
      isBlankText_space, spells_indented value _, spellsMembers_indentedMembers members depth,
      by simp [indentedMembers]⟩

end

/-! ## Reading -/

mutual

/-- Whether the text of every number in a value stands for it. -/
def IsExact : Json → Prop
  | .null | .bool _ | .string _ => True
  | .number n => n.IsExact
  | .array items => AllExact items
  | .object members => MembersExact members

def AllExact : List Json → Prop
  | [] => True
  | item :: items => IsExact item ∧ AllExact items

def MembersExact : List (String × Json) → Prop
  | [] => True
  | (_, value) :: members => IsExact value ∧ MembersExact members

end

theorem allExact_iff {items : List Json} : AllExact items ↔ ∀ j ∈ items, j.IsExact := by
  induction items with
  | nil => simp [AllExact]
  | cons item items ih => simp [AllExact, ih]

theorem membersExact_iff {members : List (String × Json)} :
    MembersExact members ↔ ∀ m ∈ members, m.2.IsExact := by
  induction members with
  | nil => simp [MembersExact]
  | cons member members ih => simp [MembersExact, ih]

/-- A double is written exactly: one that is not finite is no number of the text. -/
theorem isExact_double (x : Float) : (Json.double x).IsExact := by
  rw [Json.double]
  split
  · next h => exact h
  · trivial

namespace Draft

theorem isSeparator_comma (first : Bool) : IsSeparator first (if first then [] else [',']) := by
  cases first with
  | true => rfl
  | false => exact ⟨[], isBlankText_nil, rfl⟩

mutual

/-- **A text that spells a value is one of the grammar**, if the numbers in the value have a
text. -/
theorem spells_ofJson : ∀ (j : Json) {s : List Char}, j.IsExact → j.Spells s → (ofJson j).Spells s
  | .null, _, _, h => h
  | .bool true, _, _, h => h
  | .bool false, _, _, h => h
  | .number _, _, hexact, rfl => spellsNumber_chars hexact
  | .string text, _, _, rfl => spellsString_quote text
  | .array items, _, hexact, ⟨rest, hs, hrest⟩ => ⟨rest, hs, spellsItems_ofItems items hexact hrest⟩
  | .object members, _, hexact, ⟨rest, hs, hrest⟩ =>
    ⟨rest, hs, spellsEntries_ofMembers members hexact hrest⟩

theorem spellsItems_ofItems : ∀ (items : List Json) {first : Bool} {s : List Char},
    AllExact items → Json.SpellsItems first items s → SpellsItems first (ofItems items) s
  | [], _, _, _, h => h
  | item :: items, first, _, ⟨hitem, hitems⟩, ⟨blank, text, rest, hblank, htext, hrest, hs⟩ =>
    ⟨_, blank, text, rest, isSeparator_comma first, hblank, spells_ofJson item hitem htext,
      spellsItems_ofItems items hitems hrest, hs⟩

theorem spellsEntries_ofMembers : ∀ (members : List (String × Json)) {first : Bool}
    {s : List Char}, MembersExact members → SpellsMembers first members s →
    SpellsEntries first (ofMembers members) s
  | [], _, _, _, h => h
  | (key, value) :: members, first, _, ⟨hvalue, hmembers⟩,
      ⟨blank, blank', text, rest, hblank, hblank', htext, hrest, hs⟩ =>
    ⟨_, blank, quote key, [], blank', text, rest, isSeparator_comma first, hblank,
      spellsString_quote key, isBlankText_nil, hblank', spells_ofJson value hvalue htext,
      spellsEntries_ofMembers members hmembers hrest, hs⟩

end

end Draft

end RoadWeather.Json
