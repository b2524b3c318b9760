import RoadWeather.Json.Decoder
import RoadWeather.Proofs.NumberText

/-!
# The grammar of JSON

Whether a text is JSON is a matter of its grammar alone (`Draft.Spells`): blanks may stand around
all its parts, a number has some parts behind its sign, and a string is made up of characters,
escapes and code units. A text of the grammar is read to its end, whatever follows it, and can be
stepped over.

## Drafts instead of values

A reader does not see a value but a draft of one, in which a number may be too large for a double
and a string may have halves of surrogate pairs in it. Such texts are well-formed, and a reader
meets the problem only where it wants the value, while it steps over the same text elsewhere. So the
grammar relates texts to drafts. A break, which is what is left of a text that is not JSON, is
spelled by no text (`Draft.Spells.ne_broken`).

## The argument

The grammar follows the three functions of the reader: values, the items of an array and the members
of an object. Each of the last two begins in the middle of its bracket, as the reader does when it
comes back for the next item, and the separator is part of what is spelled. With that the induction
is one on the fuel, which is twice the length of the text or more (`Draft.readValue_spells` and its
two companions).

What follows a value matters to numbers only: they end where something stands that cannot continue
them (`EndsNumber`). A blank, a comma and a closing bracket are of that kind, and nothing else comes
after a value inside of another one.
-/

namespace RoadWeather.Json

/-! ## Blanks -/

/-- Nothing but blanks. -/
def IsBlankText (s : List Char) : Prop := ∀ c ∈ s, Draft.isBlank c = true

theorem isBlankText_nil : IsBlankText [] := fun _ hc ↦ absurd hc List.not_mem_nil

theorem isBlankText_space : IsBlankText [' '] := fun _ hc ↦ by rw [List.mem_singleton.mp hc]; rfl

namespace Draft

variable {s rest blank : List Char} {fuel : Nat}

theorem skipBlank_append (hblank : IsBlankText blank) (s : List Char) :
    skipBlank (blank ++ s) = skipBlank s :=
  List.dropWhile_append_of_pos hblank

theorem skipBlank_cons {c : Char} (hc : isBlank c = false) : skipBlank (c :: s) = c :: s :=
  List.dropWhile_cons_of_neg (by simp [hc])

theorem readValue_skipBlank (fuel : Nat) (s : List Char) :
    readValue fuel (skipBlank s) = readValue fuel s := by
  cases fuel with
  | zero => rfl
  | succ fuel =>
    have htwice : skipBlank (skipBlank s) = skipBlank s := List.dropWhile_idempotent _ _
    rw [readValue, readValue, htwice]

theorem readValue_blank_append (hblank : IsBlankText blank) (fuel : Nat) (s : List Char) :
    readValue fuel (blank ++ s) = readValue fuel s := by
  rw [← readValue_skipBlank, skipBlank_append hblank, readValue_skipBlank]

theorem endsNumber_cons {c : Char} (hc : isBlank c = true ∨ c ∈ [',', ']', '\x7d']) :
    EndsNumber (c :: s) := by
  intro d hd
  obtain rfl : c = d := Option.some.inj hd
  simp only [isBlank, Bool.or_eq_true, decide_eq_true_eq, List.mem_cons, List.not_mem_nil,
    or_false] at hc
  rcases hc with (((rfl | rfl) | rfl) | rfl) | rfl | rfl | rfl <;> decide

theorem endsNumber_blank_append {c : Char} (hblank : IsBlankText blank)
    (hc : c ∈ [',', ']', '\x7d']) : EndsNumber (blank ++ c :: rest) := by
  cases blank with
  | nil => exact endsNumber_cons (Or.inr hc)
  | cons b blank => exact endsNumber_cons (Or.inl (hblank b List.mem_cons_self))

/-! ## Strings -/

/-- The spellings of the pieces of a string: a character stands for itself, unless it is a quote, a
backslash or a control character, and may be escaped; a code unit has four hexadecimal digits. -/
inductive SpellsPieces : List Piece → List Char → Prop
  | nil : SpellsPieces [] []
  | char {c : Char} {ps : List Piece} {s : List Char} (hquote : c ≠ '"') (hslash : c ≠ '\\')
      (hcontrol : 0x20 ≤ c.toNat) (h : SpellsPieces ps s) : SpellsPieces (.char c :: ps) (c :: s)
  | escape {c e : Char} {ps : List Piece} {s : List Char} (hescape : unescape? c = some e)
      (h : SpellsPieces ps s) : SpellsPieces (.char e :: ps) ('\\' :: c :: s)
  | code {a b c d : Char} {n : Nat} {ps : List Piece} {s : List Char}
      (hcode : codeUnit? a b c d = some n) (h : SpellsPieces ps s) :
      SpellsPieces (.code n :: ps) ('\\' :: 'u' :: a :: b :: c :: d :: s)

/-- Whether a text spells a string. Pieces that stand for no string are spelled as well. -/
def SpellsString (text : Except Fault String) (s : List Char) : Prop :=
  ∃ ps body, SpellsPieces ps body ∧ s = '"' :: (body ++ ['"']) ∧
    text = (joinPieces .malformed ps).map String.ofList

/-- Pieces are found one by one, up to the closing quote. -/
theorem scanPieces_append {ps : List Piece} (h : SpellsPieces ps s) :
    scanPieces (s ++ '"' :: rest) = (ps, .ok rest) := by
  induction h with
  | nil => rfl
  | @char c ps s hquote hslash hcontrol h ih =>
    have hplain : scanPieces (c :: (s ++ '"' :: rest))
        = addPiece (.char c) (scanPieces (s ++ '"' :: rest)) := by
      rw [scanPieces.eq_def]
      split <;> simp_all
    rw [List.cons_append, hplain, ih, addPiece]
  | @escape c e ps s hescape h ih =>
    have hu : c ≠ 'u' := by
      rintro rfl
      have hnone : unescape? 'u' = none := by decide
      rw [hnone] at hescape
      cases hescape
    have hescaped : scanPieces ('\\' :: c :: (s ++ '"' :: rest))
        = addPiece (.char e) (scanPieces (s ++ '"' :: rest)) := by
      rw [scanPieces.eq_def]
      split <;> grind
    rw [List.cons_append, List.cons_append, hescaped, ih, addPiece]
  | @code a b c d n ps s hcode h ih =>
    simp only [List.cons_append, scanPieces, hcode, ih, addPiece]

theorem readString_append {text : Except Fault String} {body : List Char} {ps : List Piece}
    (h : SpellsPieces ps body) (htext : text = (joinPieces .malformed ps).map String.ofList) :
    readString (body ++ '"' :: rest) = .ok (text, rest) := by
  rw [readString, scanPieces_append h, htext]

/-! ## Values -/

/-- What stands before an item or a member: nothing before the first one, else a comma. -/
def IsSeparator : Bool → List Char → Prop
  | true, s => s = []
  | false, s => ∃ blank, IsBlankText blank ∧ s = blank ++ [',']

mutual

/-- Whether a text, which begins with no blank, spells a value. -/
def Spells : Draft → List Char → Prop
  | .null, s => s = ['n', 'u', 'l', 'l']
  | .bool true, s => s = ['t', 'r', 'u', 'e']
  | .bool false, s => s = ['f', 'a', 'l', 's', 'e']
  | .number n, s => SpellsNumber n s
  | .string text, s => SpellsString text s
  | .array items, s => ∃ rest, s = '[' :: rest ∧ SpellsItems true items rest
  | .object entries, s => ∃ rest, s = '\x7b' :: rest ∧ SpellsEntries true entries rest
  | .broken _, _ => False

/-- Whether a text spells the items of an array from the opening bracket, or after an item, up to
the closing bracket. -/
def SpellsItems : Bool → Items → List Char → Prop
  | _, .done, s => ∃ blank, IsBlankText blank ∧ s = blank ++ [']']
  | first, .item item items, s => ∃ comma blank text rest, IsSeparator first comma ∧
      IsBlankText blank ∧ Spells item text ∧ SpellsItems false items rest ∧
      s = comma ++ (blank ++ (text ++ rest))
  | _, .broken _, _ => False

/-- Whether a text spells the members of an object from the opening brace, or after a member, up to
the closing brace. -/
def SpellsEntries : Bool → Entries → List Char → Prop
  | _, .done, s => ∃ blank, IsBlankText blank ∧ s = blank ++ ['\x7d']
  | first, .entry key value entries, s => ∃ comma blank name blank' blank'' text rest,
      IsSeparator first comma ∧ IsBlankText blank ∧ SpellsString key name ∧ IsBlankText blank' ∧
      IsBlankText blank'' ∧ Spells value text ∧ SpellsEntries false entries rest ∧
      s = comma ++ (blank ++ (name ++ (blank' ++ ':' :: (blank'' ++ (text ++ rest)))))
  | _, .broken _, _ => False
  | _, .badKey _, _ => False

end

theorem Spells.ne_broken {d : Draft} (h : d.Spells s) (b : Break) : d ≠ .broken b := by
  rintro rfl
  exact h

theorem Spells.length_pos {d : Draft} (h : d.Spells s) : 0 < s.length := by
  cases d with
  | null => obtain rfl := h; decide
  | bool b => cases b <;> obtain rfl := h <;> decide
  | number n =>
    obtain ⟨negative, p, t, ⟨hp, e, -, rfl⟩, rfl, -⟩ := h
    have hwhole := List.length_pos_of_ne_nil hp.whole_ne_nil
    simp only [List.length_append]
    omega
  | string text => obtain ⟨_, _, -, rfl, -⟩ := h; exact Nat.succ_pos _
  | array items => obtain ⟨_, rfl, -⟩ := h; exact Nat.succ_pos _
  | object members => obtain ⟨_, rfl, -⟩ := h; exact Nat.succ_pos _
  | broken b => exact absurd rfl (h.ne_broken b)

theorem SpellsItems.endsNumber {items : Items} (h : SpellsItems false items s) (rest : List Char) :
    EndsNumber (s ++ rest) := by
  cases items with
  | done =>
    obtain ⟨blank, hblank, rfl⟩ := h
    rw [List.append_assoc]
    exact endsNumber_blank_append hblank (by simp)
  | item item items =>
    obtain ⟨_, blank, text, rest', ⟨before, hbefore, rfl⟩, -, -, -, rfl⟩ := h
    rw [List.append_assoc, List.append_assoc]
    exact endsNumber_blank_append hbefore (by simp)
  | broken b => exact h.elim

theorem SpellsEntries.endsNumber {entries : Entries} (h : SpellsEntries false entries s)
    (rest : List Char) : EndsNumber (s ++ rest) := by
  cases entries with
  | done =>
    obtain ⟨blank, hblank, rfl⟩ := h
    rw [List.append_assoc]
    exact endsNumber_blank_append hblank (by simp)
  | entry key value entries =>
    obtain ⟨_, _, _, _, _, _, _, ⟨before, hbefore, rfl⟩, -, -, -, -, -, -, rfl⟩ := h
    rw [List.append_assoc, List.append_assoc]
    exact endsNumber_blank_append hbefore (by simp)
  | broken b => exact h.elim
  | badKey b => exact h.elim

theorem SpellsItems.length_pos {items : Items} {first : Bool} (h : SpellsItems first items s) :
    0 < s.length := by
  cases items with
  | done => obtain ⟨blank, -, rfl⟩ := h; simp
  | item item items =>
    obtain ⟨_, _, _, _, -, -, hitem, -, rfl⟩ := h
    have hpos := hitem.length_pos
    simp only [List.length_append]
    omega
  | broken b => exact h.elim

theorem SpellsEntries.length_pos {entries : Entries} {first : Bool}
    (h : SpellsEntries first entries s) : 0 < s.length := by
  cases entries with
  | done => obtain ⟨blank, -, rfl⟩ := h; simp
  | entry key value entries => obtain ⟨_, _, _, _, _, _, _, -, -, -, -, -, -, -, rfl⟩ := h; simp
  | broken b => exact h.elim
  | badKey b => exact h.elim

/-! ## Reading

One lemma for each shape that a value can begin with. Those about items and members take one step of
the reader: the separator, the value, and then whatever is read after it. -/

theorem readValue_bracket (fuel : Nat) (s : List Char) : readValue (fuel + 1) ('[' :: s)
    = (.array (readItems fuel true s).1, (readItems fuel true s).2) := rfl

theorem readValue_brace (fuel : Nat) (s : List Char) : readValue (fuel + 1) ('\x7b' :: s)
    = (.object (readEntries fuel true s).1, (readEntries fuel true s).2) := rfl

theorem readValue_quote {text : Except Fault String} (h : SpellsString text s) (fuel : Nat) :
    readValue (fuel + 1) (s ++ rest) = (.string text, rest) := by
  obtain ⟨ps, body, hbody, rfl, htext⟩ := h
  rw [List.cons_append, List.append_assoc, List.singleton_append, readValue,
    skipBlank_cons (by decide)]
  simp only [readString_append hbody htext]

theorem skipBlank_of_readValue {d : Draft} (hd : ∀ b, d ≠ .broken b)
    (h : readValue fuel s = (d, rest)) :
    ∃ c s', skipBlank s = c :: s' ∧ c ≠ ']' ∧ readValue fuel (c :: s') = (d, rest) := by
  rw [← readValue_skipBlank] at h
  cases hskip : skipBlank s with
  | nil =>
    rw [hskip] at h
    cases fuel with
    | zero => exact absurd (Prod.mk.inj h).1.symm (hd _)
    | succ fuel => exact absurd (Prod.mk.inj h).1.symm (hd _)
  | cons c s' =>
    rw [hskip] at h
    refine ⟨c, s', rfl, ?_, h⟩
    rintro rfl
    cases fuel with
    | zero => exact absurd (Prod.mk.inj h).1.symm (hd _)
    | succ fuel => exact absurd (Prod.mk.inj h).1.symm (hd _)

/-- The item after the opening bracket or a comma, and the items after it. -/
theorem readItems_item {d : Draft} {items : Items} {comma s' : List Char} {first : Bool}
    (hcomma : IsSeparator first comma) (hd : ∀ b, d ≠ .broken b)
    (hvalue : readValue fuel s = (d, s')) (hitems : readItems fuel false s' = (items, rest)) :
    readItems (fuel + 1) first (comma ++ s) = (.item d items, rest) := by
  cases first with
  | true =>
    obtain rfl := hcomma
    obtain ⟨c, t, hskip, hc, hread⟩ := skipBlank_of_readValue hd hvalue
    rw [readItems, List.nil_append, hskip]
    dsimp only
    rw [if_neg hc, Bool.true_or, if_pos rfl, if_pos rfl, hread]
    dsimp only
    rw [hitems]
  | false =>
    obtain ⟨blank, hblank, rfl⟩ := hcomma
    rw [readItems, List.append_assoc, skipBlank_append hblank, List.singleton_append,
      skipBlank_cons (by decide)]
    dsimp only
    rw [if_neg (by decide), if_pos (by decide), if_neg Bool.false_ne_true, hvalue]
    dsimp only
    rw [hitems]

theorem readKey_entry {d : Draft} {key : Except Fault String} {entries : Entries}
    {name s' : List Char} (hname : SpellsString key name) (hblank : IsBlankText blank)
    (hvalue : readValue fuel s = (d, s')) (hentries : readEntries fuel false s' = (entries, rest)) :
    readKey (fuel + 1) (name ++ (blank ++ ':' :: s)) = (.entry key d entries, rest) := by
  obtain ⟨ps, body, hbody, rfl, hkey⟩ := hname
  rw [List.cons_append, List.append_assoc, List.singleton_append, readKey,
    readString_append hbody hkey]
  dsimp only
  rw [skipBlank_append hblank, skipBlank_cons (by decide)]
  simp only [hvalue, hentries]

/-- The member after the opening brace or a comma, and the members after it. -/
theorem readEntries_entry {d : Draft} {key : Except Fault String} {entries : Entries}
    {comma name blank' s' : List Char} {first : Bool} (hcomma : IsSeparator first comma)
    (hblank : IsBlankText blank) (hname : SpellsString key name) (hblank' : IsBlankText blank')
    (hvalue : readValue fuel s = (d, s')) (hentries : readEntries fuel false s' = (entries, rest)) :
    readEntries (fuel + 2) first (comma ++ (blank ++ (name ++ (blank' ++ ':' :: s))))
      = (.entry key d entries, rest) := by
  rw [← readKey_entry hname hblank' hvalue hentries]
  obtain ⟨t, rfl⟩ : ∃ t, name = '"' :: t := by
    obtain ⟨ps, body, -, rfl, -⟩ := hname
    exact ⟨_, rfl⟩
  have hskip : ∀ u, skipBlank (blank ++ ('"' :: t ++ u)) = '"' :: t ++ u := fun u ↦ by
    rw [skipBlank_append hblank]
    exact skipBlank_cons (by decide)
  cases first with
  | true =>
    obtain rfl := hcomma
    rw [readEntries, List.nil_append, hskip, List.cons_append]
    dsimp only
    rw [if_neg (by decide), Bool.true_or, if_pos rfl, if_pos rfl]
  | false =>
    obtain ⟨before, hbefore, rfl⟩ := hcomma
    rw [readEntries, List.append_assoc, skipBlank_append hbefore, List.singleton_append,
      skipBlank_cons (by decide)]
    dsimp only
    rw [if_neg (by decide), if_pos (by decide), if_neg Bool.false_ne_true, hskip]

mutual

/-- **A value is read from every text that spells it**, whatever follows the text. -/
theorem readValue_spells : ∀ (fuel : Nat) (rest : List Char) (d : Draft) {s blank : List Char},
    d.Spells s → IsBlankText blank → EndsNumber rest → 2 * s.length ≤ fuel →
    readValue fuel (blank ++ (s ++ rest)) = (d, rest)
  | 0, rest, d, s, blank, hs, _, _, hfuel => by
    have := hs.length_pos
    omega
  | fuel + 1, rest, .null, _, blank, rfl, hblank, _, _ => by
    rw [readValue_blank_append hblank]
    rfl
  | fuel + 1, rest, .bool true, _, blank, rfl, hblank, _, _ => by
    rw [readValue_blank_append hblank]
    rfl
  | fuel + 1, rest, .bool false, _, blank, rfl, hblank, _, _ => by
    rw [readValue_blank_append hblank]
    rfl
  | fuel + 1, rest, .number n, s, blank, hs, hblank, hrest, _ => by
    rw [readValue_blank_append hblank]
    exact readValue_spellsNumber hs hrest fuel
  | fuel + 1, rest, .string text, s, blank, hs, hblank, _, _ => by
    rw [readValue_blank_append hblank]
    exact readValue_quote hs fuel
  | fuel + 1, rest, .array items, _, blank, ⟨s, rfl, hs⟩, hblank, _, hfuel => by
    have hread := readItems_spells fuel rest items hs (by rw [List.length_cons] at hfuel; omega)
    rw [readValue_blank_append hblank, List.cons_append, readValue_bracket, hread]
  | fuel + 1, rest, .object entries, _, blank, ⟨s, rfl, hs⟩, hblank, _, hfuel => by
    have hread := readEntries_spells fuel rest entries hs (by rw [List.length_cons] at hfuel; omega)
    rw [readValue_blank_append hblank, List.cons_append, readValue_brace, hread]
  | fuel + 1, rest, .broken b, s, blank, hs, _, _, _ => hs.elim

theorem readItems_spells : ∀ (fuel : Nat) (rest : List Char) (items : Items) {first : Bool}
    {s : List Char}, SpellsItems first items s → 2 * s.length ≤ fuel →
    readItems fuel first (s ++ rest) = (items, rest)
  | 0, rest, items, first, s, hs, hfuel => by
    have := hs.length_pos
    omega
  | fuel + 1, rest, .done, first, _, ⟨blank, hblank, rfl⟩, _ => by
    rw [List.append_assoc, readItems, skipBlank_append hblank, List.singleton_append,
      skipBlank_cons (by decide)]
    rfl
  | fuel + 1, rest, .item item items, first, _,
      ⟨comma, blank, text, s, hcomma, hblank, htext, hs, rfl⟩, hfuel => by
    have hpos := htext.length_pos
    have hpos' := hs.length_pos
    simp only [List.length_append] at hfuel
    have hvalue := readValue_spells fuel (s ++ rest) item htext hblank (hs.endsNumber rest)
      (by omega)
    have hrest := readItems_spells fuel rest items hs (by omega)
    simp only [List.append_assoc]
    exact readItems_item hcomma htext.ne_broken hvalue hrest
  | fuel + 1, rest, .broken b, first, s, hs, _ => hs.elim

theorem readEntries_spells : ∀ (fuel : Nat) (rest : List Char) (entries : Entries) {first : Bool}
    {s : List Char}, SpellsEntries first entries s → 2 * s.length ≤ fuel →
    readEntries fuel first (s ++ rest) = (entries, rest)
  | 0, rest, entries, first, s, hs, hfuel => by
    have := hs.length_pos
    omega
  | fuel + 1, rest, .done, first, _, ⟨blank, hblank, rfl⟩, _ => by
    rw [List.append_assoc, readEntries, skipBlank_append hblank, List.singleton_append,
      skipBlank_cons (by decide)]
    rfl
  | 1, rest, .entry key value entries, first, _,
      ⟨comma, blank, name, blank', blank'', text, s, _, _, _, _, _, _, _, rfl⟩, hfuel => by
    simp only [List.length_append, List.length_cons] at hfuel
    omega
  | fuel + 2, rest, .entry key value entries, first, _,
      ⟨comma, blank, name, blank', blank'', text, s, hcomma, hblank, hname, hblank', hblank'',
        htext, hs, rfl⟩, hfuel => by
    have hpos := htext.length_pos
    have hpos' := hs.length_pos
    simp only [List.length_append, List.length_cons] at hfuel
    have hvalue := readValue_spells fuel (s ++ rest) value htext hblank'' (hs.endsNumber rest)
      (by omega)
    have hrest := readEntries_spells fuel rest entries hs (by omega)
    simp only [List.append_assoc, List.cons_append]
    exact readEntries_entry hcomma hblank hname hblank' hvalue hrest
  | fuel + 1, rest, .broken b, first, s, hs, _ => hs.elim
  | fuel + 1, rest, .badKey b, first, s, hs, _ => hs.elim

end

/-! ## Whole texts -/

/-- Whether a text spells a value, perhaps between blanks. -/
def SpelledBy (d : Draft) (text : String) : Prop :=
  ∃ before s after, d.Spells s ∧ IsBlankText before ∧ IsBlankText after ∧
    text = String.ofList (before ++ (s ++ after))

theorem read_of_spells {d : Draft} {blank' : List Char} (h : d.Spells s)
    (hblank : IsBlankText blank) (hblank' : IsBlankText blank') :
    read (String.ofList (blank ++ (s ++ blank'))) = (d, blank') := by
  have hend : EndsNumber blank' := by
    cases blank' with
    | nil => rintro _ ⟨⟩
    | cons c blank' => exact endsNumber_cons (Or.inl (hblank' c List.mem_cons_self))
  have hread := readValue_spells (3 * (blank ++ (s ++ blank')).length + 3) blank' d h hblank hend
    (by simp only [List.length_append]; omega)
  rw [read, String.toList_ofList]
  exact hread

/-- **The value is what is read in the text**, and nothing but blanks is left. -/
theorem SpelledBy.read_eq {d : Draft} {text : String} (h : d.SpelledBy text) :
    (read text).1 = d ∧ skipBlank (read text).2 = [] := by
  obtain ⟨before, s, after, hs, hbefore, hafter, rfl⟩ := h
  rw [read_of_spells hs hbefore hafter]
  exact ⟨rfl, List.dropWhile_eq_nil_iff.mpr hafter⟩

/-- What a decoder finds in a text is what it finds in the value that the text spells. -/
theorem SpelledBy.decode_eq {α : Type} {d : Draft} {text : String} (h : d.SpelledBy text)
    (value : Decoder α) : decode value text = value d := by
  obtain ⟨hdraft, hend⟩ := h.read_eq
  rw [decode]
  dsimp only
  rw [hdraft, hend]
  cases value d <;> rfl

/-! ## Stepping over values -/

mutual

/-- **What a text spells is stepped over.** -/
theorem skip_of_spells : ∀ (d : Draft) {s : List Char}, d.Spells s → skip d = .ok ()
  | .null, _, _ => rfl
  | .bool _, _, _ => rfl
  | .number _, _, _ => rfl
  | .string _, _, _ => rfl
  | .array items, _, ⟨_, _, hs⟩ => skipItems_of_spells items hs
  | .object entries, _, ⟨_, _, hs⟩ => skipEntries_of_spells entries hs
  | .broken _, _, hs => hs.elim

theorem skipItems_of_spells : ∀ (items : Items) {first : Bool} {s : List Char},
    SpellsItems first items s → skipItems items = .ok ()
  | .done, _, _, _ => rfl
  | .item item items, _, _, ⟨_, _, _, _, _, _, htext, hs, _⟩ => by
    rw [skipItems, skip_of_spells item htext]
    exact skipItems_of_spells items hs
  | .broken _, _, _, hs => hs.elim

theorem skipEntries_of_spells : ∀ (entries : Entries) {first : Bool} {s : List Char},
    SpellsEntries first entries s → skipEntries entries = .ok ()
  | .done, _, _, _ => rfl
  | .entry key value entries, _, _, ⟨_, _, _, _, _, _, _, _, _, _, _, _, htext, hs, _⟩ => by
    rw [skipEntries, skip_of_spells value htext]
    exact skipEntries_of_spells entries hs
  | .broken _, _, _, hs => hs.elim
  | .badKey _, _, _, hs => hs.elim

end

theorem SpelledBy.skip_eq {d : Draft} {text : String} (h : d.SpelledBy text) :
    skip d = .ok () := by
  obtain ⟨_, _, _, hs, -⟩ := h
  exact skip_of_spells d hs

end Draft

end RoadWeather.Json
