import Fairweather.Json.Decoding
import Fairweather.Json.Writing
import Fairweather.Proofs.Json.Fields
import Fairweather.Proofs.Json.Numbers
import Fairweather.Proofs.Text.Utf8

/-!
# Written JSON reads back

A document is written on one line or over several lines. The two texts have the same parts and
differ in their blanks, so both are layouts of the document (`Document.LaidOutAs`), and what is
shown here is shown of any layout.

**Strings.** A character is written as itself or as an escape. Either way the reader cuts it off as
one piece (`Quoted.scan_stringChar`), and the piece stands for the character
(`Quoted.symbols_ofChar`).

**Numbers.** A finite number is written as a number that is scanned whole, and what is not finite as
`null` (`Document.numberNode`).

**Lists and objects.** The reader is taken apart into what it does at a closing bracket and what it
does at an item or a member (`Node.readItems_item`, `Node.readMembers_member`). Then the proof
follows the document. Its invariant is the depth: the reader gives up a step for each bracket and
each item, and as each has a character of its own, the length of the text is depth enough.

Main result: `Document.decode_laidOutAs`.
-/

namespace Fairweather

open Text

namespace Json

/-! ## Strings -/

open Document (stringChar stringChars)

/-- The characters that are escaped by one letter. -/
def Piece.letters : List Char := ['"', '\\', '\n', '\r', '\t', Char.ofNat 8, Char.ofNat 12]

/-- The piece that a character is written as. -/
def Piece.ofChar (c : Char) : Piece :=
  if c ∈ letters then .letter c
  else if c.toNat < 0x20 then .unit c.toNat
  else .symbol (some c)

/-- The body of the string that a text is written as. -/
def Quoted.ofChars (text : List Char) : Quoted := ⟨text.map Piece.ofChar, .closed⟩

namespace Quoted

theorem hexValue?_digitChar : ∀ d < 16, hexValue? (Nat.digitChar d) = some d := by decide

theorem unit?_digitChar {n : Nat} (h : n < 0x20) :
    unit? (some '0') (some '0') (some (Nat.digitChar (n / 16))) (some (Nat.digitChar (n % 16))) =
      some n := by
  have hhigh := hexValue?_digitChar (n / 16) (by omega)
  have hlow := hexValue?_digitChar (n % 16) (by omega)
  have hzero : hexValue? '0' = some 0 := by decide
  simp [unit?, hhigh, hlow, hzero]
  omega

/-- **A character is cut off as the piece that it is written as.** -/
theorem scan_stringChar (c : Char) (rest : List Symbol) :
    scan ((stringChar c).map some ++ rest) = cons (Piece.ofChar c) (scan rest) := by
  by_cases hletter : c ∈ Piece.letters
  · rw [Piece.ofChar, if_pos hletter]
    simp only [Piece.letters, List.mem_cons, List.not_mem_nil, or_false] at hletter
    rcases hletter with rfl | rfl | rfl | rfl | rfl | rfl | rfl <;> rfl
  · rw [Piece.ofChar, if_neg hletter]
    have hne : ∀ d ∈ Piece.letters, c ≠ d := by
      rintro d hd rfl
      exact hletter hd
    have hcode : ∀ n, Char.ofNat n ∈ Piece.letters → c.toNat ≠ n := by
      intro n hn heq
      exact hne _ hn (by rw [← heq, Char.ofNat_toNat])
    have hb := hcode 8 (by decide)
    have hf := hcode 12 (by decide)
    simp only [Piece.letters, List.forall_mem_cons] at hne
    by_cases hcontrol : c.toNat < 0x20
    · simp [stringChar, hne, hb, hf, hcontrol, scan, unit?_digitChar hcontrol]
    · simp [stringChar, hne, hb, hf, hcontrol, scan]

theorem scan_ofChars (text rest : List Char) :
    scan ((text.flatMap stringChar ++ '"' :: rest).map some) = (ofChars text, rest.map some) := by
  induction text with
  | nil => rfl
  | cons c text ih =>
    rw [List.flatMap_cons, List.append_assoc, List.map_append, scan_stringChar, ih]
    rfl

theorem symbols_unit {code : Nat} (h : code < 0xD800) (ending : QuoteEnd) (rest : List Piece) :
    symbols ending (.unit code :: rest) =
      (symbols ending rest).map (some (Char.ofNat code) :: ·) := by
  have hlow : ¬ (0xDC00 ≤ code ∧ code < 0xE000) := by omega
  have hhigh : ¬ (0xD800 ≤ code ∧ code < 0xDC00) := by omega
  cases rest with
  | nil => simp only [symbols, if_neg hlow, if_neg hhigh]
  | cons piece rest =>
    cases piece with
    | symbol s => simp [symbols, if_neg hlow, if_neg hhigh]
    | letter c => simp [symbols, if_neg hlow, if_neg hhigh]
    | unit second => conv_lhs => rw [symbols, if_neg hlow, if_neg hhigh]

theorem symbols_ofChar (ending : QuoteEnd) (c : Char) (rest : List Piece) :
    symbols ending (Piece.ofChar c :: rest) = (symbols ending rest).map (some c :: ·) := by
  unfold Piece.ofChar
  split_ifs with hletter hcontrol
  · rfl
  · rw [symbols_unit (by omega), Char.ofNat_toNat]
  · rfl

/-- **A written string is read as the text that it was written for.** -/
theorem decode_ofChars (text : List Char) : (ofChars text).decode = .ok (String.ofList text) := by
  have hsymbols : symbols .closed (text.map Piece.ofChar) = .ok (text.map some) := by
    induction text with
    | nil => rfl
    | cons c text ih =>
      rw [List.map_cons, symbols_ofChar, ih]
      rfl
  have hchars : (text.map some).mapM id = some text := Utf8.mapM_id_eq_some_iff.2 rfl
  simp [decode, ofChars, hsymbols, hchars, bind, Except.bind, pure, Except.pure]

end Quoted

/-! ## Blanks and the parts of a text -/

/-- The characters that may stand between the parts of a text. -/
def isGap (c : Char) : Bool := Node.isSpace (some c)

theorem isGap_iff {c : Char} : isGap c ↔ c = ' ' ∨ c = '\n' ∨ c = '\t' ∨ c = '\r' := by
  simp [isGap, Node.isSpace, or_assoc]

theorem stops_gap {gap : List Char} (h : Run isGap gap) {c : Char}
    (hc : Numeral.continues c = false) (text : List Char) :
    Stops Numeral.continues (gap ++ c :: text) := by
  refine stops_run_append h (fun d hd => ?_) (stops_cons.2 hc)
  rw [isGap_iff] at hd
  rcases hd with rfl | rfl | rfl | rfl <;> decide

namespace Node

theorem skipSpace_gap {gap : List Char} (h : Run isGap gap) (text : List Symbol) :
    skipSpace (gap.map some ++ text) = skipSpace text := by
  induction gap with
  | nil => rfl
  | cons c gap ih =>
    obtain ⟨hc, hgap⟩ := run_cons.1 h
    have hskip : skipSpace (some c :: (gap.map some ++ text)) = skipSpace (gap.map some ++ text) :=
      List.dropWhile_cons_of_pos hc
    rw [List.map_cons, List.cons_append, hskip, ih hgap]

theorem skipSpace_cons {c : Char} (h : isGap c = false) (text : List Symbol) :
    skipSpace (some c :: text) = some c :: text :=
  List.dropWhile_cons_of_neg (by simpa [isGap] using h)

theorem read_gap {gap : List Char} (h : Run isGap gap) (depth : Nat) (text : List Symbol) :
    read depth (gap.map some ++ text) = read depth text := by
  cases depth with
  | zero => rw [read, read]
  | succ depth => simp only [read, skipSpace_gap h]

/-- The characters that a value can begin with. -/
def opens (c : Char) : Bool :=
  c = 'n' || c = '"' || c = '[' || c = '{' || c = '-' || c.isDigit

theorem ne_of_opens {c d : Char} (hc : opens c) (hd : d = ']' ∨ d = '}' ∨ d = ',' ∨ isGap d) :
    c ≠ d := by
  rintro rfl
  rw [isGap_iff] at hd
  rcases hd with rfl | rfl | rfl | rfl | rfl | rfl | rfl <;> cases hc

theorem not_isGap_of_opens {c : Char} (h : opens c) : isGap c = false :=
  Bool.eq_false_iff.2 fun hgap => ne_of_opens h (.inr (.inr (.inr hgap))) rfl

theorem read_number (depth : Nat) {c : Char} (hc : c = '-' ∨ c.isDigit) (text : List Symbol) :
    read (depth + 1) (some c :: text) =
      (.number (Number.scan (some c :: text)).1, (Number.scan (some c :: text)).2) := by
  have hgap : isGap c = false := not_isGap_of_opens (by rcases hc with rfl | hc <;> simp [opens, *])
  have hne : ∀ d ∈ ['n', 't', 'f', '"', '[', '{'], c ≠ d := by
    rintro d hd rfl
    simp only [List.mem_cons, List.not_mem_nil, or_false] at hd
    rcases hd with rfl | rfl | rfl | rfl | rfl | rfl <;> revert hc <;> decide
  simp only [List.forall_mem_cons] at hne
  simp [read, skipSpace_cons hgap, hne, hc]

theorem read_quote (depth : Nat) (text : List Symbol) :
    read (depth + 1) (some '"' :: text) = (.string (Quoted.scan text).1, (Quoted.scan text).2) := by
  have hgap : isGap '"' = false := by decide
  rw [read, skipSpace_cons hgap]
  rfl

theorem read_bracket (depth : Nat) (text : List Symbol) :
    read (depth + 1) (some '[' :: text) =
      (.list (readItems depth true text).1, (readItems depth true text).2) := by
  have hgap : isGap '[' = false := by decide
  rw [read, skipSpace_cons hgap]
  rfl

theorem read_brace (depth : Nat) (text : List Symbol) :
    read (depth + 1) (some '{' :: text) =
      (.object (readMembers depth true text).1, (readMembers depth true text).2) := by
  have hgap : isGap '{' = false := by decide
  rw [read, skipSpace_cons hgap]
  rfl

/-- A separator, if it is not the first part, in front of an item. -/
def separator (first : Bool) : List Char := if first then [] else [',']

section

variable {depth : Nat} {gap text : List Char} {node : Node} {more rest : List Symbol}
  (first : Bool) (hgap : Run isGap gap)

include hgap

theorem readItems_closed :
    readItems (depth + 1) first ((gap ++ ']' :: text).map some) = (.closed, text.map some) := by
  have hbracket : isGap ']' = false := by decide
  rw [List.map_append, List.map_cons, readItems, skipSpace_gap hgap, skipSpace_cons hbracket]
  rfl

theorem readItems_item {c : Char} {items : Items} (hc : opens c)
    (hnode : read depth ((c :: text).map some) = (node, more))
    (hitems : readItems depth false more = (items, rest)) :
    readItems (depth + 1) first ((separator first ++ (gap ++ c :: text)).map some) =
      (.cons node items, rest) := by
  have hcomma : isGap ',' = false := by decide
  have hskip := skipSpace_cons (not_isGap_of_opens hc) (text.map some)
  have hclose : c ≠ ']' := ne_of_opens hc (.inl rfl)
  rw [List.map_cons] at hnode
  cases first with
  | true => simp [separator, readItems, skipSpace_gap hgap, hskip, hclose, hnode, hitems]
  | false =>
    simp [separator, readItems, skipSpace_cons hcomma, skipSpace_gap hgap, hskip, hclose, hnode,
      hitems]

theorem readMembers_closed :
    readMembers (depth + 1) first ((gap ++ '}' :: text).map some) = (.closed, text.map some) := by
  have hbrace : isGap '}' = false := by decide
  rw [List.map_append, List.map_cons, readMembers, skipSpace_gap hgap, skipSpace_cons hbrace]
  rfl

theorem readMembers_member {value : List Symbol} {key : Quoted} {members : Members}
    (hkey : Quoted.scan (text.map some) = (key, some ':' :: value))
    (hnode : read depth value = (node, more))
    (hmembers : readMembers depth false more = (members, rest)) :
    readMembers (depth + 1) first ((separator first ++ (gap ++ '"' :: text)).map some) =
      (.cons key node members, rest) := by
  have hcomma : isGap ',' = false := by decide
  have hquote : isGap '"' = false := by decide
  have hskip := skipSpace_cons hquote (text.map some)
  have hcolon : readColon (some ':' :: value) (read depth) = (node, more) := by
    have hgap : isGap ':' = false := by decide
    rw [readColon, skipSpace_cons hgap]
    exact hnode
  cases first with
  | true => simp [separator, readMembers, skipSpace_gap hgap, hskip, hkey, hcolon, hmembers]
  | false =>
    simp [separator, readMembers, skipSpace_cons hcomma, skipSpace_gap hgap, hskip, hkey, hcolon,
      hmembers]

end

end Node

/-! ## Documents -/

namespace Document

/-- What stands where a number is written. -/
def numberNode (x : Binary64) : Node :=
  if x.isFinite then .number (Number.scan (x.jsonChars.map some)).1 else .null

/-- Where a finite number is written, there stands a number that rounds to it. -/
theorem exists_numberNode_eq {x : Binary64} (h : x.isFinite) :
    ∃ n, IsNumber x.jsonChars n ∧ n.value.RoundsTo x ∧ numberNode x = .number n := by
  obtain ⟨n, hn, hrounds⟩ := Binary64.exists_isNumber_jsonChars h
  have hscan := Number.scan_append hn stops_nil
  rw [List.append_nil] at hscan
  exact ⟨n, hn, hrounds, by rw [numberNode, if_pos h, hscan]⟩

mutual

/-- What stands where a document is written. -/
def node : Document → Node
  | number x => numberNode x
  | string text => .string (Quoted.ofChars text)
  | list items => .list (itemNodes items)
  | object members => .object (memberNodes members)

/-- What stands where items are written. -/
def itemNodes : List Document → Items
  | [] => .closed
  | item :: rest => .cons item.node (itemNodes rest)

/-- What stands where members are written. -/
def memberNodes : List (String × Document) → Members
  | [] => .closed
  | (name, value) :: rest => .cons (Quoted.ofChars name.toList) value.node (memberNodes rest)

end

mutual

/-- **A layout of a document**: its parts in their order, with any blanks in front of items,
members, values and closing brackets. -/
def LaidOutAs : Document → List Char → Prop
  | number x, text => text = x.jsonChars
  | string chars, text => text = stringChars chars
  | list items, text => ∃ body, text = '[' :: body ∧ ItemsLaidOutAs true items body
  | object members, text => ∃ body, text = '{' :: body ∧ MembersLaidOutAs true members body

/-- A layout of items and the closing bracket. -/
def ItemsLaidOutAs (first : Bool) : List Document → List Char → Prop
  | [], text => ∃ gap, Run isGap gap ∧ text = gap ++ [']']
  | item :: rest, text => ∃ gap chars more, Run isGap gap ∧ item.LaidOutAs chars ∧
      ItemsLaidOutAs false rest more ∧ text = Node.separator first ++ (gap ++ (chars ++ more))

/-- A layout of members and the closing brace. -/
def MembersLaidOutAs (first : Bool) : List (String × Document) → List Char → Prop
  | [], text => ∃ gap, Run isGap gap ∧ text = gap ++ ['}']
  | (name, value) :: rest, text => ∃ gap space chars more, Run isGap gap ∧ Run isGap space ∧
      value.LaidOutAs chars ∧ MembersLaidOutAs false rest more ∧
      text = Node.separator first ++
        (gap ++ (stringChars name.toList ++ ':' :: (space ++ (chars ++ more))))

end

mutual

theorem laidOutAs_compact : ∀ d : Document, d.LaidOutAs d.compact
  | number x => by rw [LaidOutAs, compact]
  | string text => by rw [LaidOutAs, compact]
  | list items => by
    rw [LaidOutAs, compact]
    exact ⟨_, rfl, itemsLaidOutAs_compact true items⟩
  | object members => by
    rw [LaidOutAs, compact]
    exact ⟨_, rfl, membersLaidOutAs_compact true members⟩

theorem itemsLaidOutAs_compact (first : Bool) :
    ∀ items, ItemsLaidOutAs first items (compactItems first items)
  | [] => by
    rw [ItemsLaidOutAs, compactItems]
    exact ⟨[], run_nil, rfl⟩
  | item :: rest => by
    rw [ItemsLaidOutAs, compactItems]
    exact ⟨[], _, _, run_nil, laidOutAs_compact item, itemsLaidOutAs_compact false rest,
      by simp [Node.separator]⟩

theorem membersLaidOutAs_compact (first : Bool) :
    ∀ members, MembersLaidOutAs first members (compactMembers first members)
  | [] => by
    rw [MembersLaidOutAs, compactMembers]
    exact ⟨[], run_nil, rfl⟩
  | (name, value) :: rest => by
    rw [MembersLaidOutAs, compactMembers]
    exact ⟨[], [], _, _, run_nil, run_nil, laidOutAs_compact value,
      membersLaidOutAs_compact false rest, by simp [Node.separator]⟩

end

theorem run_newline (depth : Nat) : Run isGap (newline depth) := by
  refine run_cons.2 ⟨by decide, fun c hc => ?_⟩
  rw [List.eq_of_mem_replicate hc]
  decide

mutual

theorem laidOutAs_prettyAt (depth : Nat) : ∀ d : Document, d.LaidOutAs (d.prettyAt depth)
  | number x => by rw [LaidOutAs, prettyAt]
  | string text => by rw [LaidOutAs, prettyAt]
  | list [] => by
    rw [LaidOutAs, prettyAt]
    exact ⟨_, rfl, [], run_nil, rfl⟩
  | list (item :: rest) => by
    rw [LaidOutAs, prettyAt]
    refine ⟨_, rfl, ?_⟩
    rw [ItemsLaidOutAs]
    exact ⟨newline (depth + 1), _, _, run_newline _, laidOutAs_prettyAt (depth + 1) item,
      itemsLaidOutAs_pretty depth rest, by simp [Node.separator]⟩
  | object [] => by
    rw [LaidOutAs, prettyAt]
    exact ⟨_, rfl, [], run_nil, rfl⟩
  | object ((name, value) :: rest) => by
    rw [LaidOutAs, prettyAt]
    refine ⟨_, rfl, ?_⟩
    rw [MembersLaidOutAs]
    exact ⟨newline (depth + 1), [' '], _, _, run_newline _, by simp [isGap_iff],
      laidOutAs_prettyAt (depth + 1) value, membersLaidOutAs_pretty depth rest,
      by simp [Node.separator]⟩

theorem itemsLaidOutAs_pretty (depth : Nat) :
    ∀ items, ItemsLaidOutAs false items (prettyItems depth items)
  | [] => by
    rw [ItemsLaidOutAs, prettyItems]
    exact ⟨_, run_newline depth, rfl⟩
  | item :: rest => by
    rw [ItemsLaidOutAs, prettyItems]
    exact ⟨newline (depth + 1), _, _, run_newline _, laidOutAs_prettyAt (depth + 1) item,
      itemsLaidOutAs_pretty depth rest, by simp [Node.separator]⟩

theorem membersLaidOutAs_pretty (depth : Nat) :
    ∀ members, MembersLaidOutAs false members (prettyMembers depth members)
  | [] => by
    rw [MembersLaidOutAs, prettyMembers]
    exact ⟨_, run_newline depth, rfl⟩
  | (name, value) :: rest => by
    rw [MembersLaidOutAs, prettyMembers]
    exact ⟨newline (depth + 1), [' '], _, _, run_newline _, by simp [isGap_iff],
      laidOutAs_prettyAt (depth + 1) value, membersLaidOutAs_pretty depth rest,
      by simp [Node.separator]⟩

end

/-! ## Layouts are read -/

theorem jsonChars_of_not_isFinite {x : Binary64} (h : x.isFinite = false) :
    x.jsonChars = ['n', 'u', 'l', 'l'] := by
  cases x with
  | nan => rfl
  | signed negative rank =>
    have hrank : rank.val = Binary64.infinityRank := by
      simp only [Binary64.isFinite, decide_eq_false_iff_not] at h
      omega
    rw [Binary64.jsonChars, if_pos hrank]

theorem LaidOutAs.opens {d : Document} {text : List Char} (h : d.LaidOutAs text) :
    ∃ c more, text = c :: more ∧ Node.opens c := by
  cases d with
  | number x =>
    rw [LaidOutAs] at h
    subst h
    cases hx : x.isFinite with
    | false => exact ⟨'n', _, jsonChars_of_not_isFinite hx, rfl⟩
    | true =>
      obtain ⟨n, hn, -⟩ := Binary64.exists_isNumber_jsonChars hx
      obtain ⟨c, more, hchars, hc⟩ := hn.opens
      exact ⟨c, more, hchars, by rcases hc with rfl | hc <;> simp [Node.opens, *]⟩
  | string chars =>
    rw [LaidOutAs] at h
    exact ⟨'"', _, h, rfl⟩
  | list items =>
    rw [LaidOutAs] at h
    obtain ⟨body, rfl, -⟩ := h
    exact ⟨'[', body, rfl, rfl⟩
  | object members =>
    rw [LaidOutAs] at h
    obtain ⟨body, rfl, -⟩ := h
    exact ⟨'{', body, rfl, rfl⟩

theorem ItemsLaidOutAs.stops {items : List Document} {text : List Char}
    (h : ItemsLaidOutAs false items text) (rest : List Char) :
    Stops Numeral.continues (text ++ rest) := by
  cases items with
  | nil =>
    rw [ItemsLaidOutAs] at h
    obtain ⟨gap, hgap, rfl⟩ := h
    rw [List.append_assoc]
    exact stops_gap hgap (by decide) rest
  | cons item items =>
    rw [ItemsLaidOutAs] at h
    obtain ⟨_, _, _, -, -, -, rfl⟩ := h
    exact stops_cons.2 (by decide)

theorem MembersLaidOutAs.stops {members : List (String × Document)} {text : List Char}
    (h : MembersLaidOutAs false members text) (rest : List Char) :
    Stops Numeral.continues (text ++ rest) := by
  cases members with
  | nil =>
    rw [MembersLaidOutAs] at h
    obtain ⟨gap, hgap, rfl⟩ := h
    rw [List.append_assoc]
    exact stops_gap hgap (by decide) rest
  | cons member members =>
    rw [MembersLaidOutAs] at h
    obtain ⟨_, _, _, _, -, -, -, -, rfl⟩ := h
    exact stops_cons.2 (by decide)

theorem ItemsLaidOutAs.length_pos {first : Bool} {items : List Document} {text : List Char}
    (h : ItemsLaidOutAs first items text) : 0 < text.length := by
  cases items with
  | nil =>
    rw [ItemsLaidOutAs] at h
    obtain ⟨gap, -, rfl⟩ := h
    simp
  | cons item items =>
    rw [ItemsLaidOutAs] at h
    obtain ⟨gap, chars, more, -, hchars, -, rfl⟩ := h
    obtain ⟨c, cs, rfl, -⟩ := hchars.opens
    simp only [List.length_append, List.length_cons]
    omega

theorem MembersLaidOutAs.length_pos {first : Bool} {members : List (String × Document)}
    {text : List Char} (h : MembersLaidOutAs first members text) : 0 < text.length := by
  cases members with
  | nil =>
    rw [MembersLaidOutAs] at h
    obtain ⟨gap, -, rfl⟩ := h
    simp
  | cons member members =>
    rw [MembersLaidOutAs] at h
    obtain ⟨gap, space, chars, more, -, -, -, -, rfl⟩ := h
    simp only [List.length_append, List.length_cons]
    omega

/-- **A written number is read as what stands there**, a number or `null`. -/
theorem read_jsonChars (x : Binary64) (depth : Nat) {rest : List Char}
    (hrest : Stops Numeral.continues rest) :
    Node.read (depth + 1) ((x.jsonChars ++ rest).map some) = (numberNode x, rest.map some) := by
  cases hx : x.isFinite with
  | false =>
    rw [jsonChars_of_not_isFinite hx, numberNode, hx]
    simp [Node.read, Node.skipSpace, Node.isSpace, Node.readWord]
  | true =>
    obtain ⟨n, hn, -, hnode⟩ := exists_numberNode_eq hx
    have hscan := Number.scan_append hn hrest
    obtain ⟨c, more, hchars, hc⟩ := hn.opens
    rw [hnode]
    rw [hchars, List.cons_append, List.map_cons] at hscan ⊢
    rw [Node.read_number depth hc, hscan]

mutual

/-- **A layout is read as the document that it lays out.** The depth that is left is at least the
length of the text, which every step into the text makes shorter. -/
theorem read_laidOutAs : ∀ (d : Document) (depth : Nat) {text rest : List Char},
    d.LaidOutAs text → text.length ≤ depth → Stops Numeral.continues rest →
    Node.read depth ((text ++ rest).map some) = (d.node, rest.map some)
  | d, 0, text, rest, h, hdepth, hrest => by
    obtain ⟨c, more, rfl, -⟩ := h.opens
    simp at hdepth
  | number x, depth + 1, text, rest, h, hdepth, hrest => by
    rw [LaidOutAs] at h
    subst h
    exact read_jsonChars x depth hrest
  | string chars, depth + 1, text, rest, h, hdepth, hrest => by
    rw [LaidOutAs] at h
    subst h
    have hchars : stringChars chars ++ rest =
        '"' :: (chars.flatMap stringChar ++ '"' :: rest) := by simp [stringChars]
    rw [hchars, List.map_cons, Node.read_quote, Quoted.scan_ofChars, node]
  | list items, depth + 1, text, rest, h, hdepth, hrest => by
    rw [LaidOutAs] at h
    obtain ⟨body, rfl, hbody⟩ := h
    have hitems := readItems_laidOutAs items depth hbody (Nat.le_of_succ_le_succ hdepth) rest
    rw [List.cons_append, List.map_cons, Node.read_bracket, hitems, node]
  | object members, depth + 1, text, rest, h, hdepth, hrest => by
    rw [LaidOutAs] at h
    obtain ⟨body, rfl, hbody⟩ := h
    have hmembers := readMembers_laidOutAs members depth hbody (Nat.le_of_succ_le_succ hdepth) rest
    rw [List.cons_append, List.map_cons, Node.read_brace, hmembers, node]

theorem readItems_laidOutAs : ∀ (items : List Document) {first : Bool} (depth : Nat)
    {text : List Char}, ItemsLaidOutAs first items text → text.length ≤ depth →
    ∀ rest, Node.readItems depth first ((text ++ rest).map some) = (itemNodes items, rest.map some)
  | items, _, 0, text, h, hdepth, rest => by
    have := h.length_pos
    omega
  | [], first, depth + 1, text, h, hdepth, rest => by
    rw [ItemsLaidOutAs] at h
    obtain ⟨gap, hgap, rfl⟩ := h
    rw [List.append_assoc]
    exact Node.readItems_closed first hgap
  | item :: items, first, depth + 1, text, h, hdepth, rest => by
    rw [ItemsLaidOutAs] at h
    obtain ⟨gap, chars, more, hgap, hchars, hmore, rfl⟩ := h
    have hpos := hmore.length_pos
    simp only [List.length_append] at hdepth
    have hnode := read_laidOutAs item depth hchars (by omega) (hmore.stops rest)
    obtain ⟨c, cs, rfl, hc⟩ := hchars.opens
    have hitems := readItems_laidOutAs items depth hmore (by simp at hdepth; omega) rest
    simpa [itemNodes] using Node.readItems_item first hgap hc hnode hitems

theorem readMembers_laidOutAs : ∀ (members : List (String × Document)) {first : Bool} (depth : Nat)
    {text : List Char}, MembersLaidOutAs first members text → text.length ≤ depth → ∀ rest,
    Node.readMembers depth first ((text ++ rest).map some) = (memberNodes members, rest.map some)
  | members, _, 0, text, h, hdepth, rest => by
    have := h.length_pos
    omega
  | [], first, depth + 1, text, h, hdepth, rest => by
    rw [MembersLaidOutAs] at h
    obtain ⟨gap, hgap, rfl⟩ := h
    rw [List.append_assoc]
    exact Node.readMembers_closed first hgap
  | (name, value) :: members, first, depth + 1, text, h, hdepth, rest => by
    rw [MembersLaidOutAs] at h
    obtain ⟨gap, space, chars, more, hgap, hspace, hchars, hmore, rfl⟩ := h
    have hkey := Quoted.scan_ofChars name.toList (':' :: (space ++ (chars ++ (more ++ rest))))
    simp only [stringChars, List.length_append, List.length_cons] at hdepth
    have hnode := read_laidOutAs value depth hchars (by omega) (hmore.stops rest)
    rw [← Node.read_gap hspace, ← List.map_append] at hnode
    have hmembers := readMembers_laidOutAs members depth hmore (by omega) rest
    simpa [stringChars, memberNodes] using Node.readMembers_member first hgap hkey hnode hmembers

end

/-- **A whole text that lays out a document** is read as the document. -/
theorem ofText_laidOutAs {d : Document} {text : List Char} (h : d.LaidOutAs text) :
    Node.ofText (text.map some) = (d.node, []) := by
  have hread := read_laidOutAs d (2 * text.length + 2) h (by omega) stops_nil
  rw [List.append_nil] at hread
  rw [Node.ofText, List.length_map, hread, List.map_nil]

theorem holds_memberNodes {members : List (String × Document)} {name : String} {value : Document}
    (h : (name, value) ∈ members) : (memberNodes members).Holds name value.node := by
  induction members with
  | nil => cases h
  | cons member members ih =>
    rw [memberNodes]
    rcases List.mem_cons.1 h with rfl | h
    · exact .here (by rw [Quoted.decode_ofChars, String.ofList_toList])
    · exact .there (ih h)

theorem hasField_object {members : List (String × Document)} {name : String} {value : Document}
    (h : (name, value) ∈ members) (names : List String) :
    (object members).node.HasField names name value.node := holds_memberNodes h

theorem decode_laidOutAs {α : Type} {d : Document} {text : List Char} (h : d.LaidOutAs text)
    (read : Node → Except Fault α) : Json.decode read (text.map some) = read d.node := by
  rw [Json.decode, ofText_laidOutAs h]
  simp [Node.skipSpace]

end Document

end Json

end Fairweather
