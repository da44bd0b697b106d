import Gutter.Console.Logger
import Gutter.Proofs.Pattern.Finds

/-! Debug lines show the whole message. What stands behind the prefix is the message, character by
character, and what looks like a setting in it is a place where a setting was found. -/

namespace Gutter.Console

open Pattern (CharTest Cursor Match Node Trace)

/-! ### What is found -/

def keyTest : CharTest := .set false false ⟨.exact, false⟩ [.category false .word, .code '-'.toNat]

def filledTest : CharTest := .set false false ⟨.exact, false⟩ [.category true .space]

/-- `".*?"`, with these characters around it -/
def enclosedNode (first last : Char) : Node :=
  .seq (.char (.only first))
    (.seq (.many false (some (.only last)) .lazy 0 none .notNewline) (.char (.only last)))

/-- `".*?"|'.*?'|\[.*?\]|\S+` -/
def valueNode : Node :=
  .either false (some (.only '"')) (enclosedNode '"' '"')
    (.either false (some (.only '\'')) (enclosedNode '\'' '\'')
      (.either false (some (.only '[')) (enclosedNode '[' ']')
        (.either false none (.many false none .greedy 1 none filledTest) .never)))

def settingNode : Node :=
  .seq (.group 1 (.many false none .greedy 1 none keyTest))
    (.seq (.char (.only '=')) (.group 2 valueNode))

theorem settingPattern_eq : settingPattern = ⟨settingNode, 3, false, 2, []⟩ := by
  decide +kernel

/-- A match with a key, from `start` to before `middle`, and a value, from after that to before
`stop`. -/
def settingHit (start middle stop : Nat) : Match where
  start := start
  stop := stop
  groups := [some (start, middle), some (middle + 1, stop)]

/-- A key and its value. -/
structure Setting where
  key : List Char
  value : List Char
  key_ne : key ≠ []
  value_ne : value ≠ []

namespace Setting

def text (setting : Setting) : List Char := setting.key ++ '=' :: setting.value

theorem length_text (setting : Setting) :
    setting.text.length = setting.key.length + 1 + setting.value.length := by
  rw [text, List.length_append, List.length_cons, Nat.add_right_comm, Nat.add_assoc]

theorem length_key_pos (setting : Setting) : 0 < setting.key.length :=
  List.length_pos_iff.mpr setting.key_ne

theorem length_value_pos (setting : Setting) : 0 < setting.value.length :=
  List.length_pos_iff.mpr setting.value_ne

/-- The match of a setting that stands at an index. -/
def hit (setting : Setting) (index : Nat) : Match :=
  settingHit index (index + setting.key.length) (index + setting.text.length)

def pieces (setting : Setting) : List Piece :=
  [⟨keyStyle, setting.key⟩, ⟨dimStyle, ['=']⟩, ⟨valueStyle setting.key, setting.value⟩]

end Setting

section Takes

variable {cursor between next : Cursor} {advance : Bool} {found : Match}

/-- The characters that follow the cursor are read, up to the next one. -/
def Reads (cursor : Cursor) (taken : List Char) (next : Cursor) : Prop :=
  ∃ rest, cursor.after = taken ++ rest ∧ next = cursor.pastAll taken rest

theorem Reads.append {first second : List Char} (h : Reads cursor first between)
    (h' : Reads between second next) : Reads cursor (first ++ second) next := by
  obtain ⟨_, hafter, rfl⟩ := h
  obtain ⟨rest, hrest, rfl⟩ := h'
  obtain rfl : _ = second ++ rest := hrest
  exact ⟨rest, by rw [hafter, List.append_assoc], Cursor.pastAll_pastAll cursor first second rest⟩

theorem Reads.index_eq {taken : List Char} (h : Reads cursor taken next) :
    next.index = cursor.index + taken.length := by
  obtain ⟨rest, -, rfl⟩ := h
  rfl

theorem reads_of_takes_only {c : Char} (h : (Node.char (.only c)).Takes cursor next) :
    Reads cursor [c] next := by
  obtain ⟨rest, hafter, rfl⟩ := Node.takes_only.mp h
  exact ⟨rest, hafter, rfl⟩

theorem reads_of_takes_many {test : CharTest} {inLoop : Bool} {lead : Option CharTest}
    {mode : Pattern.Mode} {min : Nat} {max : Option Nat}
    (h : (Node.many inLoop lead mode min max test).Takes cursor next) :
    ∃ taken, Reads cursor taken next ∧ min ≤ taken.length := by
  obtain ⟨taken, rest, hafter, -, hcounts, rfl⟩ := h
  exact ⟨taken, ⟨rest, hafter, rfl⟩, hcounts.1⟩

theorem reads_of_takes_enclosed {first last : Char}
    (h : (enclosedNode first last).Takes cursor next) :
    ∃ taken, Reads cursor taken next ∧ taken ≠ [] := by
  obtain ⟨opened, hopen, closing, hinner, hclose⟩ := h
  obtain ⟨inner, hinner, -⟩ := reads_of_takes_many hinner
  have hreads := (reads_of_takes_only hopen).append (hinner.append (reads_of_takes_only hclose))
  exact ⟨_, hreads, List.cons_ne_nil _ _⟩

theorem reads_of_takes_value (h : valueNode.Takes cursor next) :
    ∃ taken, Reads cursor taken next ∧ taken ≠ [] := by
  rcases h with h | h | h | h | h
  · exact reads_of_takes_enclosed h
  · exact reads_of_takes_enclosed h
  · exact reads_of_takes_enclosed h
  · obtain ⟨taken, hreads, hlength⟩ := reads_of_takes_many h
    exact ⟨taken, hreads, List.ne_nil_of_length_pos hlength⟩
  · cases h

/-- A match is a setting, with its key and its value as groups. -/
theorem exists_setting (h : settingPattern.matchAt advance cursor = some (found, next)) :
    ∃ setting : Setting, Reads cursor setting.text next ∧ found = setting.hit cursor.index := by
  rw [settingPattern_eq] at h
  have hseq : settingNode.InSequence 0 := ⟨⟨rfl, rfl⟩, rfl, rfl, rfl⟩
  obtain ⟨marks, hmarks, rfl⟩ := Pattern.marks_of_matchAt hseq rfl h
  obtain ⟨behindKey, early, late, ⟨hkey, rfl⟩, hlate, rfl⟩ := hmarks
  obtain ⟨behindSign, none, spans, ⟨hsign, rfl⟩, ⟨hvalue, rfl⟩, rfl⟩ := hlate
  obtain ⟨key, hkey, hkeyLength⟩ := reads_of_takes_many hkey
  obtain ⟨value, hvalue, hvalueNe⟩ := reads_of_takes_value hvalue
  have hsign := reads_of_takes_only hsign
  have hall := hkey.append (hsign.append hvalue)
  refine ⟨⟨key, value, List.ne_nil_of_length_pos hkeyLength, hvalueNe⟩, hall, ?_⟩
  have hspans : Match.ofTrace 2 cursor.index
      ⟨[some cursor, some behindKey] ++ ([] ++ [some behindSign, some next]), next⟩ =
      ⟨cursor.index, next.index,
        [some (cursor.index, behindKey.index), some (behindSign.index, next.index)]⟩ := rfl
  rw [hspans, hall.index_eq, hsign.index_eq, hkey.index_eq]
  rfl

end Takes

/-! ### The layout of a message -/

/-- A text cut into settings and what stands before and behind them. -/
inductive Layout
  | last (text : List Char)
  | part (before : List Char) (setting : Setting) (rest : Layout)

namespace Layout

def text : Layout → List Char
  | .last text => text
  | .part before setting rest => before ++ (setting.text ++ rest.text)

/-- The matches of its settings, if the text starts at an index. -/
def hits : Nat → Layout → List Match
  | _, .last _ => []
  | index, .part before setting rest =>
    setting.hit (index + before.length) ::
      rest.hits (index + before.length + setting.text.length)

def pieces : Layout → List Piece
  | .last text => pieceOf dimStyle text
  | .part before setting rest => pieceOf dimStyle before ++ (setting.pieces ++ rest.pieces)

end Layout

/-- Matches that are found in turn are those of a layout. -/
theorem exists_layout {cursor : Cursor} {hits : List Match}
    (h : settingPattern.InTurn cursor hits) :
    ∃ layout : Layout, layout.text = cursor.after ∧ layout.hits cursor.index = hits := by
  induction h with
  | none cursor => exact ⟨.last cursor.after, rfl, rfl⟩
  | @next cursor after advance skipped rest found others hskipped hmatch hothers ih =>
    obtain ⟨setting, ⟨more, hmore, rfl⟩, rfl⟩ := exists_setting hmatch
    obtain ⟨layout, htext, hhits⟩ := ih
    obtain rfl : rest = setting.text ++ more := hmore
    refine ⟨.part skipped setting layout, ?_, ?_⟩
    · rw [Layout.text, htext, hskipped]
      rfl
    · rw [Layout.hits, ← hhits]
      rfl

theorem pieceOf_of_ne {style : Style} {text : List Char} (h : text ≠ []) :
    pieceOf style text = [⟨style, text⟩] :=
  if_neg fun hempty => h (List.isEmpty_iff.mp hempty)

section Groups

variable {message front back : List Char} {setting : Setting} {index : Nat}

theorem groupText_key (hmessage : message = front ++ (setting.text ++ back))
    (hindex : index = front.length) : groupText message (setting.hit index) 1 = setting.key := by
  have hsplit : message = front ++ (setting.key ++ ('=' :: setting.value ++ back)) := by
    rw [hmessage, Setting.text, List.append_assoc]
  exact Pattern.slice_append hsplit hindex rfl

theorem groupText_value (hmessage : message = front ++ (setting.text ++ back))
    (hindex : index = front.length) :
    groupText message (setting.hit index) 2 = setting.value := by
  have hsplit : message = (front ++ (setting.key ++ ['='])) ++ (setting.value ++ back) := by
    simp [hmessage, Setting.text]
  apply Pattern.slice_append hsplit
  · rw [hindex, List.length_append, List.length_append, ← Nat.add_assoc]
    rfl
  · rw [setting.length_text]
    omega

end Groups

/-- The pieces of a text are made by its layout, wherever the text stands in the message. -/
theorem highlightFrom_layout (front : List Char) (layout : Layout) :
    highlightFrom (front ++ layout.text) front.length (layout.hits front.length) =
      layout.pieces := by
  induction layout generalizing front with
  | last text => simp [Layout.text, Layout.hits, Layout.pieces, highlightFrom]
  | part before setting rest ih =>
    let message := front ++ (before ++ (setting.text ++ rest.text))
    let hit := setting.hit (front.length + before.length)
    have hmessage : message = (front ++ before) ++ (setting.text ++ rest.text) := by
      simp [message]
    have hbefore : Pattern.slice message front.length hit.start = before :=
      Pattern.slice_append rfl rfl rfl
    have hkey : groupText message hit 1 = setting.key :=
      groupText_key hmessage List.length_append.symm
    have hvalue : groupText message hit 2 = setting.value :=
      groupText_value hmessage List.length_append.symm
    have hrest := ih (front ++ before ++ setting.text)
    have hlength : (front ++ before ++ setting.text).length = hit.stop := by
      rw [List.length_append, List.length_append]
      rfl
    rw [List.append_assoc, ← hmessage, hlength] at hrest
    show pieceOf dimStyle (Pattern.slice message front.length hit.start) ++
      pieceOf keyStyle (groupText message hit 1) ++ [⟨dimStyle, ['=']⟩] ++
      pieceOf (valueStyle (groupText message hit 1)) (groupText message hit 2) ++
      highlightFrom message hit.stop (rest.hits hit.stop) = _
    rw [hbefore, hkey, hvalue, hrest, pieceOf_of_ne setting.key_ne, pieceOf_of_ne setting.value_ne,
      Layout.pieces, Setting.pieces]
    simp

/-- A message has a layout, which tells the matches in it and its pieces. -/
theorem layout_of_message (message : List Char) :
    ∃ layout : Layout, layout.text = message ∧ layout.hits 0 = settingPattern.findAll message ∧
      layout.pieces = highlight message := by
  obtain ⟨layout, htext, hhits⟩ := exists_layout (settingPattern.inTurn_findAll message)
  obtain rfl : layout.text = message := htext
  have hpieces := highlightFrom_layout [] layout
  rw [List.nil_append, List.length_nil] at hpieces
  refine ⟨layout, rfl, hhits, ?_⟩
  rw [highlight, ← hhits]
  exact hpieces.symm

/-! ### What is shown -/

/-- The characters of the pieces, each with its style. -/
def painted (pieces : List Piece) : List (Char × Style) :=
  pieces.flatMap fun piece => piece.text.map (·, piece.style)

def styleAt (styled : List (Char × Style)) (index : Nat) : Option Style :=
  styled[index]?.map Prod.snd

/-- Values have this style, those of some keys at least. -/
def IsValueStyle (style : Option Style) : Prop := ∃ key, style = some (valueStyle key)

/-- A maximal part of a text that looks like a key, from `start` to before `middle`, an equals sign,
and a value, from after that to before `stop`. -/
structure ShowsSetting (styled : List (Char × Style)) (start middle stop : Nat) : Prop where
  key_ne : start < middle
  value_ne : middle + 1 < stop
  key : ∀ index, start ≤ index → index < middle → styleAt styled index = some keyStyle
  sign : styled[middle]? = some ('=', dimStyle)
  value : ∀ index, middle < index → index < stop → IsValueStyle (styleAt styled index)
  before : ∀ index, index + 1 = start → styleAt styled index ≠ some keyStyle
  behind : ¬IsValueStyle (styleAt styled stop)

section Styles

variable {styled rest : List (Char × Style)} {setting : Setting} {index start : Nat}

theorem isValueStyle_value (key : List Char) : IsValueStyle (some (valueStyle key)) := ⟨key, rfl⟩

theorem isValueStyle_cases {style : Option Style} (h : IsValueStyle style) :
    style = some ⟨true, false, some .blue⟩ ∨ style = some ⟨true, false, some .green⟩ := by
  obtain ⟨key, rfl⟩ := h
  unfold valueStyle
  split
  · exact .inl rfl
  · exact .inr rfl

theorem not_isValueStyle_dim : ¬IsValueStyle (some dimStyle) := by
  intro h
  rcases isValueStyle_cases h with hblue | hgreen
  · exact absurd hblue (by decide)
  · exact absurd hgreen (by decide)

theorem not_isValueStyle_key : ¬IsValueStyle (some keyStyle) := by
  intro h
  rcases isValueStyle_cases h with hblue | hgreen
  · exact absurd hblue (by decide)
  · exact absurd hgreen (by decide)

theorem keyStyle_ne_dimStyle : some keyStyle ≠ some dimStyle := by decide

theorem getElem?_append_length (first second : List (Char × Style)) (index : Nat) :
    (first ++ second)[first.length + index]? = second[index]? := by
  rw [List.getElem?_append_right (Nat.le_add_right _ _), Nat.add_sub_cancel_left]

/-- Within characters of one style, whatever stands around them. -/
theorem styleAt_within (front back : List (Char × Style)) (style : Style) {text : List Char}
    (h : index < text.length) :
    styleAt (front ++ (text.map (·, style) ++ back)) (front.length + index) = some style := by
  have hlength : index < (text.map (·, style)).length := by
    rw [List.length_map]
    exact h
  rw [styleAt, getElem?_append_length, List.getElem?_append_left hlength, List.getElem?_map,
    List.getElem?_eq_getElem h]
  rfl

/-- A setting stands at `start` in the text, behind what looks like none, and then the rest. -/
structure Leads (styled rest : List (Char × Style)) (setting : Setting) (start : Nat) : Prop where
  before : ∀ index < start, styleAt styled index = some dimStyle
  key : ∀ index < setting.key.length, styleAt styled (start + index) = some keyStyle
  sign : styled[start + setting.key.length]? = some ('=', dimStyle)
  value : ∀ index < setting.value.length,
    styleAt styled (start + setting.key.length + 1 + index) = some (valueStyle setting.key)
  rest : ∀ index, styled[start + setting.text.length + index]? = rest[index]?

theorem painted_pieceOf (style : Style) (text : List Char) :
    painted (pieceOf style text) = text.map (·, style) := by
  cases text with
  | nil => rfl
  | cons c rest => simp [pieceOf, painted]

theorem painted_append (pieces more : List Piece) :
    painted (pieces ++ more) = painted pieces ++ painted more := by
  simp [painted]

theorem leads_part (before : List Char) (setting : Setting) (rest : Layout) :
    Leads (painted (Layout.part before setting rest).pieces) (painted rest.pieces) setting
      before.length := by
  let shown := before.map (·, dimStyle)
  let key := setting.key.map (·, keyStyle)
  let value := setting.value.map (·, valueStyle setting.key)
  have hshown : shown.length = before.length := List.length_map _
  have hkey : (shown ++ key).length = before.length + setting.key.length := by simp [shown, key]
  have hsign : (shown ++ key ++ [('=', dimStyle)]).length =
      before.length + setting.key.length + 1 := by
    rw [List.length_append, hkey]
    rfl
  have hvalue : (shown ++ key ++ [('=', dimStyle)] ++ value).length =
      before.length + setting.text.length := by
    rw [List.length_append, hsign, Setting.length_text, List.length_map]
    omega
  have hpainted : painted (Layout.part before setting rest).pieces =
      shown ++ key ++ [('=', dimStyle)] ++ value ++ painted rest.pieces := by
    rw [Layout.pieces, painted_append, painted_append, painted_pieceOf]
    simp [painted, Setting.pieces, shown, key, value]
  rw [hpainted]
  constructor
  · intro index h
    have hstyle := styleAt_within [] (key ++ [('=', dimStyle)] ++ value ++ painted rest.pieces)
      dimStyle h
    simpa [shown] using hstyle
  · intro index h
    have hstyle := styleAt_within shown ([('=', dimStyle)] ++ value ++ painted rest.pieces)
      keyStyle h
    rw [hshown] at hstyle
    simpa [key] using hstyle
  · have hget := getElem?_append_length (shown ++ key)
      ([('=', dimStyle)] ++ value ++ painted rest.pieces) 0
    rw [hkey] at hget
    simpa using hget
  · intro index h
    have hstyle := styleAt_within (shown ++ key ++ [('=', dimStyle)]) (painted rest.pieces)
      (valueStyle setting.key) h
    rw [hsign] at hstyle
    simpa [value] using hstyle
  · intro index
    rw [← hvalue]
    exact getElem?_append_length _ _ index

/-- What the characters look like up to the end of the setting. -/
theorem Leads.style (h : Leads styled rest setting start)
    (hindex : index < start + setting.text.length) :
    (index < start ∨ index = start + setting.key.length) ∧ styleAt styled index = some dimStyle ∨
    start ≤ index ∧ index < start + setting.key.length ∧ styleAt styled index = some keyStyle ∨
    start + setting.key.length < index ∧ IsValueStyle (styleAt styled index) := by
  by_cases hbefore : index < start
  · exact .inl ⟨.inl hbefore, h.before index hbefore⟩
  obtain ⟨offset, rfl⟩ := Nat.exists_eq_add_of_le (Nat.le_of_not_lt hbefore)
  rcases Nat.lt_trichotomy offset setting.key.length with hlt | rfl | hgt
  · exact .inr (.inl ⟨Nat.le_add_right start offset, by omega, h.key offset hlt⟩)
  · exact .inl ⟨.inr rfl, by rw [styleAt, h.sign]; rfl⟩
  · have hvalue := h.value (offset - setting.key.length - 1)
      (by rw [Setting.length_text] at hindex; omega)
    have hplace : start + setting.key.length + 1 + (offset - setting.key.length - 1) =
        start + offset := by omega
    rw [hplace] at hvalue
    exact .inr (.inr ⟨by omega, hvalue ▸ isValueStyle_value setting.key⟩)

theorem Leads.styleAt_rest (h : Leads styled rest setting start) (index : Nat) :
    styleAt styled (start + setting.text.length + index) = styleAt rest index := by
  rw [styleAt, h.rest, styleAt]

/-- The setting is shown, if what follows does not look like a value. -/
theorem Leads.shows (h : Leads styled rest setting start)
    (hrest : ¬IsValueStyle (styleAt rest 0)) :
    ShowsSetting styled start (start + setting.key.length) (start + setting.text.length) := by
  have hlength := setting.length_text
  have hkey := setting.length_key_pos
  have hvalue := setting.length_value_pos
  constructor
  · omega
  · omega
  · intro index hle hlt
    rcases h.style (by omega : index < _) with ⟨hout, -⟩ | ⟨-, -, hstyle⟩ | ⟨hout, -⟩
    · omega
    · exact hstyle
    · omega
  · exact h.sign
  · intro index hgt hlt
    rcases h.style hlt with ⟨hout, -⟩ | ⟨-, hout, -⟩ | ⟨-, hstyle⟩
    · omega
    · omega
    · exact hstyle
  · intro index hbefore
    rw [h.before index (by omega)]
    exact keyStyle_ne_dimStyle.symm
  · have hstyle := h.styleAt_rest 0
    rw [Nat.add_zero] at hstyle
    rw [hstyle]
    exact hrest

/-- Nothing else is shown up to the end of the setting. -/
theorem Leads.eq_of_shows (h : Leads styled rest setting start)
    (hrest : ¬IsValueStyle (styleAt rest 0)) {first middle stop : Nat}
    (hshows : ShowsSetting styled first middle stop) (hfirst : first < start + setting.text.length) :
    first = start ∧ middle = start + setting.key.length ∧
      stop = start + setting.text.length := by
  have hlength := setting.length_text
  have hshown := h.shows hrest
  have hdim {index : Nat} (hsign : styled[index]? = some ('=', dimStyle)) :
      styleAt styled index = some dimStyle := by rw [styleAt, hsign]; rfl
  have hinside : start ≤ first ∧ first < start + setting.key.length := by
    have hstyle := hshows.key first (Nat.le_refl first) hshows.key_ne
    rcases h.style hfirst with ⟨-, hother⟩ | ⟨hle, hlt, -⟩ | ⟨-, hother⟩
    · exact absurd (hstyle.symm.trans hother) keyStyle_ne_dimStyle
    · exact ⟨hle, hlt⟩
    · rw [hstyle] at hother
      exact absurd hother not_isValueStyle_key
  have hstart : first = start := by
    refine Nat.le_antisymm (Nat.le_of_not_lt fun hlt => ?_) hinside.1
    exact hshows.before (first - 1) (by omega) (hshown.key (first - 1) (by omega) (by omega))
  have hmiddle : middle = start + setting.key.length := by
    refine Nat.le_antisymm (Nat.le_of_not_lt fun hlt => ?_) (Nat.le_of_not_lt fun hlt => ?_)
    · exact keyStyle_ne_dimStyle ((hshows.key _ (by omega) hlt).symm.trans (hdim hshown.sign))
    · have hle : start ≤ middle := by
        have := hshows.key_ne
        omega
      exact keyStyle_ne_dimStyle ((hshown.key middle hle hlt).symm.trans (hdim hshows.sign))
  have hvalue := hshows.value_ne
  refine ⟨hstart, hmiddle, ?_⟩
  refine Nat.le_antisymm (Nat.le_of_not_lt fun hlt => ?_) (Nat.le_of_not_lt fun hlt => ?_)
  · exact hshown.behind (hshows.value _ (by omega) hlt)
  · exact hshows.behind (hshown.value stop (by omega) hlt)

/-- Behind the setting there is shown what the rest shows. -/
theorem Leads.shows_rest (h : Leads styled rest setting start) (first middle stop : Nat) :
    ShowsSetting styled (start + setting.text.length + first)
      (start + setting.text.length + middle) (start + setting.text.length + stop) ↔
    ShowsSetting rest first middle stop := by
  constructor
  · intro hshows
    constructor
    · exact Nat.lt_of_add_lt_add_left hshows.key_ne
    · have := hshows.value_ne
      omega
    · intro index hle hlt
      rw [← h.styleAt_rest]
      exact hshows.key _ (by omega) (by omega)
    · rw [← h.rest]
      exact hshows.sign
    · intro index hgt hlt
      rw [← h.styleAt_rest]
      exact hshows.value _ (by omega) (by omega)
    · intro index hbefore
      rw [← h.styleAt_rest]
      exact hshows.before _ (by omega)
    · rw [← h.styleAt_rest]
      exact hshows.behind
  · intro hshows
    constructor
    · exact Nat.add_lt_add_left hshows.key_ne _
    · have := hshows.value_ne
      omega
    · intro index hle hlt
      obtain ⟨offset, rfl⟩ := Nat.exists_eq_add_of_le (Nat.le_of_add_right_le hle)
      rw [h.styleAt_rest]
      exact hshows.key offset (by omega) (by omega)
    · rw [h.rest]
      exact hshows.sign
    · intro index hgt hlt
      obtain ⟨offset, rfl⟩ := Nat.exists_eq_add_of_le (Nat.le_of_add_right_le (Nat.le_of_lt hgt))
      rw [h.styleAt_rest]
      exact hshows.value offset (by omega) (by omega)
    · intro index hbefore hstyle
      -- the character before the rest is the last one of the value
      by_cases hlt : index < start + setting.text.length
      · rcases h.style hlt with ⟨-, hother⟩ | ⟨-, hout, -⟩ | ⟨-, hother⟩
        · exact keyStyle_ne_dimStyle (hstyle.symm.trans hother)
        · have := setting.length_text
          have := setting.length_value_pos
          omega
        · rw [hstyle] at hother
          exact not_isValueStyle_key hother
      · obtain ⟨offset, rfl⟩ := Nat.exists_eq_add_of_le (Nat.le_of_not_lt hlt)
        rw [h.styleAt_rest] at hstyle
        exact hshows.before offset (by omega) hstyle
    · rw [h.styleAt_rest]
      exact hshows.behind

end Styles

section Layout

variable {found : Match} {index first middle stop : Nat}

/-- What stands behind the last setting looks like none. -/
theorem styleAt_last (text : List Char) (index : Nat) :
    styleAt (painted (Layout.last text).pieces) index = none ∨
      styleAt (painted (Layout.last text).pieces) index = some dimStyle := by
  rw [Layout.pieces, painted_pieceOf, styleAt, List.getElem?_map]
  cases text[index]? with
  | none => exact .inl rfl
  | some c => exact .inr rfl

/-- No text starts with a value. -/
theorem not_isValueStyle_head (layout : Layout) :
    ¬IsValueStyle (styleAt (painted layout.pieces) 0) := by
  cases layout with
  | last text =>
    rcases styleAt_last text 0 with h | h
    · rw [h]
      exact fun ⟨key, hkey⟩ => nomatch hkey
    · rw [h]
      exact not_isValueStyle_dim
  | part before setting rest =>
    have hlength := setting.length_text
    rcases (leads_part before setting rest).style (by omega : 0 < _) with
      ⟨-, h⟩ | ⟨-, -, h⟩ | ⟨hout, -⟩
    · rw [h]
      exact not_isValueStyle_dim
    · rw [h]
      exact not_isValueStyle_key
    · omega

theorem exists_of_mem_hits {layout : Layout} (h : found ∈ layout.hits index) :
    ∃ start middle stop, found = settingHit start middle stop ∧
      index ≤ start ∧ start < middle ∧ middle + 1 < stop := by
  induction layout generalizing index with
  | last text => cases h
  | part before setting rest ih =>
    rcases List.mem_cons.mp h with rfl | h
    · have hlength := setting.length_text
      have hkey := setting.length_key_pos
      have hvalue := setting.length_value_pos
      exact ⟨_, _, _, rfl, by omega, by omega, by omega⟩
    · obtain ⟨start, middle, stop, hfound, hle, hrest⟩ := ih h
      exact ⟨start, middle, stop, hfound, by omega, hrest⟩

theorem settingHit_inj {first' middle' stop' : Nat} :
    settingHit first middle stop = settingHit first' middle' stop' ↔
      first = first' ∧ middle = middle' ∧ stop = stop' := by
  constructor
  · intro h
    simp only [settingHit, Match.mk.injEq, List.cons.injEq, Option.some.injEq, Prod.mk.injEq] at h
    exact ⟨h.1, h.2.2.1.2, h.2.1⟩
  · rintro ⟨rfl, rfl, rfl⟩
    rfl

/-- What looks like a setting are the matches. -/
theorem shows_iff_mem_hits (layout : Layout) (index first middle stop : Nat) :
    ShowsSetting (painted layout.pieces) first middle stop ↔
      settingHit (index + first) (index + middle) (index + stop) ∈ layout.hits index := by
  induction layout generalizing index first middle stop with
  | last text =>
    refine iff_of_false (fun hshows => ?_) List.not_mem_nil
    have hkey := hshows.key first (Nat.le_refl first) hshows.key_ne
    rcases styleAt_last text first with h | h
    · exact nomatch hkey.symm.trans h
    · exact keyStyle_ne_dimStyle (hkey.symm.trans h)
  | part before setting rest ih =>
    have hleads := leads_part before setting rest
    have hrest := not_isValueStyle_head rest
    have hindex (offset : Nat) : index + (before.length + setting.text.length + offset) =
        index + before.length + setting.text.length + offset := by omega
    constructor
    · intro hshows
      by_cases hfirst : first < before.length + setting.text.length
      · obtain ⟨rfl, rfl, rfl⟩ := hleads.eq_of_shows hrest hshows hfirst
        exact List.mem_cons.mpr (.inl (settingHit_inj.mpr ⟨rfl, by omega, by omega⟩))
      · have hkey := hshows.key_ne
        have hvalue := hshows.value_ne
        obtain ⟨first, rfl⟩ := Nat.exists_eq_add_of_le (Nat.le_of_not_lt hfirst)
        obtain ⟨middle, rfl⟩ := Nat.exists_eq_add_of_le
          (by omega : before.length + setting.text.length ≤ middle)
        obtain ⟨stop, rfl⟩ := Nat.exists_eq_add_of_le
          (by omega : before.length + setting.text.length ≤ stop)
        rw [hindex, hindex, hindex]
        exact List.mem_cons_of_mem _ ((ih _ _ _ _).mp ((hleads.shows_rest _ _ _).mp hshows))
    · intro hmem
      rcases List.mem_cons.mp hmem with hown | hlater
      · obtain ⟨hfirst, hmiddle, hstop⟩ := settingHit_inj.mp hown
        obtain rfl : first = before.length := by omega
        obtain rfl : middle = before.length + setting.key.length := by omega
        obtain rfl : stop = before.length + setting.text.length := by omega
        exact hleads.shows hrest
      · obtain ⟨_, _, _, hhit, hle, hkey, hvalue⟩ := exists_of_mem_hits hlater
        obtain ⟨rfl, rfl, rfl⟩ := settingHit_inj.mp hhit
        obtain ⟨first, rfl⟩ := Nat.exists_eq_add_of_le
          (by omega : before.length + setting.text.length ≤ first)
        obtain ⟨middle, rfl⟩ := Nat.exists_eq_add_of_le
          (by omega : before.length + setting.text.length ≤ middle)
        obtain ⟨stop, rfl⟩ := Nat.exists_eq_add_of_le
          (by omega : before.length + setting.text.length ≤ stop)
        rw [hindex, hindex, hindex] at hlater
        exact (hleads.shows_rest _ _ _).mpr ((ih _ _ _ _).mpr hlater)

theorem texts_pieceOf (style : Style) (text : List Char) :
    (pieceOf style text).flatMap (·.text) = text := by
  cases text with
  | nil => rfl
  | cons c rest => simp [pieceOf]

/-- The pieces are the text, put together. -/
theorem texts_pieces (layout : Layout) : layout.pieces.flatMap (·.text) = layout.text := by
  induction layout with
  | last text => exact texts_pieceOf dimStyle text
  | part before setting rest ih =>
    rw [Layout.pieces, List.flatMap_append, List.flatMap_append, texts_pieceOf, ih]
    simp [Setting.pieces, Setting.text, Layout.text]

end Layout

/-- If debug lines are wanted, one is its prefix and the message, put together of pieces. What looks
like a setting in it, as far as it goes, is a match of the pattern for settings, and there are no
other matches. -/
theorem debug_line_shows_message (logger : Logger) (message : String) :
    { logger with debug := true }.debugText message = render logger.target
      (⟨debugStyle, "[debug] ".toList⟩ :: highlight message.toList) ∧
    (highlight message.toList).flatMap (·.text) = message.toList ∧
    (∀ start middle stop, ShowsSetting (painted (highlight message.toList)) start middle stop ↔
      settingHit start middle stop ∈ settingPattern.findAll message.toList) ∧
    ∀ found ∈ settingPattern.findAll message.toList, ∃ start middle stop,
      found = settingHit start middle stop := by
  obtain ⟨layout, htext, hhits, hpieces⟩ := layout_of_message message.toList
  refine ⟨rfl, ?_, fun start middle stop => ?_, fun found hfound => ?_⟩
  · rw [← hpieces, texts_pieces, htext]
  · have hshows := shows_iff_mem_hits layout 0 start middle stop
    rw [Nat.zero_add, Nat.zero_add, Nat.zero_add] at hshows
    rw [← hpieces, ← hhits]
    exact hshows
  · rw [← hhits] at hfound
    obtain ⟨start, middle, stop, hhit, -⟩ := exists_of_mem_hits hfound
    exact ⟨start, middle, stop, hhit⟩

/-- A value in quotes may hold blanks. -/
example : highlight "ran cmd='ls -l' exit=0".toList =
    [⟨dimStyle, "ran ".toList⟩, ⟨keyStyle, "cmd".toList⟩, ⟨dimStyle, "=".toList⟩,
      ⟨valueStyle "cmd".toList, "'ls -l'".toList⟩, ⟨dimStyle, " ".toList⟩,
      ⟨keyStyle, "exit".toList⟩, ⟨dimStyle, "=".toList⟩, ⟨valueStyle "exit".toList, ['0']⟩] := by
  decide +kernel

end Gutter.Console
