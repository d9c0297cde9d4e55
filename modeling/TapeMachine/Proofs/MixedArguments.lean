/-
Operands and options in any order.

The arguments of a command are operands and options with values, mixed as the user likes.  Options
are taken out in a first reading, wherever they stand, so that the second one finds the operands
beside each other: the first is the program, the second the tape, and the others are of no use.

An option that is not known stays where it is.  In front of the operands and behind the first two
it does no harm.  Between these two it hides the tape.

* **`Simulator.Piece`**, **`Simulator.spelled`** — arguments made of operands and options with
  values;
* **`Simulator.Stranger`** — a spelling that has nothing in common with any option;
* **`Simulator.resolve_spelled`** — one reading of such arguments;
* **`Simulator.ofArguments_spelled`** — what they ask for;
* **`Simulator.arguments_in_any_order`** — hence their order does not matter;
* **`Simulator.ofArguments_stranger`** — what is left of that, if there is a stranger among them;
* **`Simulator.stranger_among_arguments`** — a stranger does nothing, but for the one place;
* **`Simulator.stranger_hides_tape`** — where it does.
-/
import Mathlib.Data.List.TakeWhile
import TapeMachine.Proofs.ArgumentReading
import TapeMachine.Proofs.Phases

namespace TapeMachine.Simulator

/-- A text that does not start with a dash stands for itself wherever it is. -/
def Undashed (text : String) : Prop :=
  text.toList.head? ≠ some '-'

instance (text : String) : Decidable (Undashed text) :=
  inferInstanceAs (Decidable (_ ≠ _))

/-- A part of a command line: an operand, or an option with its value. -/
inductive Piece where
  | operand (text : String) (undashed : Undashed text)
  | setting (s : Setting) (value : String) (undashed : Undashed value)

namespace Piece

/-- The arguments of a piece. -/
def arguments : Piece → List String
  | .operand text _ => [text]
  | .setting s value _ => [(Flag.setting s).long, value]

/-- What a piece is read as. -/
def item : Piece → Item
  | .operand text _ => .operand text
  | .setting s value _ => .setting s (some value)

/-- The operand that a piece is, if it is one. -/
def operand? : Piece → Option String
  | .operand text _ => some text
  | .setting _ _ _ => none

/-- The value that a piece gives to a setting, if it does. -/
def value? (s : Setting) : Piece → Option String
  | .operand _ _ => none
  | .setting s' value _ => if s' = s then some value else none

end Piece

/-- All arguments of several pieces. -/
def spelled (pieces : List Piece) : List String :=
  pieces.flatMap Piece.arguments

/-- The operands among several pieces, in order. -/
def operands (pieces : List Piece) : List String :=
  pieces.filterMap Piece.operand?

/-- The values that several pieces give to a setting, in order. -/
def values (s : Setting) (pieces : List Piece) : List String :=
  pieces.filterMap (Piece.value? s)

/-- What pieces ask for: the first two operands, and the last value of each setting. -/
def requested (pieces : List Piece) : Request where
  program := (operands pieces)[0]?
  tape := (operands pieces)[1]?
  config := (values .config pieces).getLast?.map some
  logDirectory := (values .logDirectory pieces).getLast?.map some

/-- A spelling that has nothing in common with any option: it starts with two dashes, holds neither
a blank nor `=`, and no option starts with it or is the start of it. -/
structure Stranger where
  text : String
  dashes : ['-', '-'] <+: text.toList
  no_blank : ' ' ∉ text.toList
  no_equals : '=' ∉ text.toList
  apart : ∀ f : Flag, ¬text.toList <+: f.long.toList ∧ ¬f.long.toList <+: text.toList

variable {d : Dialect} {before after pieces : List Piece} {items : List Item}

/-! ### One reading -/

namespace Stranger

theorem exists_toList (u : Stranger) : ∃ rest, u.text.toList = '-' :: '-' :: rest := by
  obtain ⟨rest, hrest⟩ := u.dashes
  exact ⟨rest, hrest.symm⟩

theorem ne_divider (u : Stranger) : u.text ≠ "--" := by
  intro h
  refine (u.apart .help).1 ?_
  rw [h]
  exact ⟨"help".toList, rfl⟩

/-- A stranger gives no value. -/
theorem cut_eq (u : Stranger) : Word.cut u.text.toList = (u.text.toList, none) := by
  have hall : ∀ c ∈ u.text.toList, (c != '=') = true := by
    intro c hc
    rw [bne_iff_ne]
    rintro rfl
    exact u.no_equals hc
  rw [Word.cut, List.dropWhile_eq_nil_iff.mpr hall]

/-- No option is spelled like a stranger. -/
theorem spelled?_eq (u : Stranger) : Word.spelled? Request.known u.text = none := by
  obtain ⟨rest, hrest⟩ := u.exists_toList
  rw [Word.spelled?, List.find?_eq_none]
  intro f _
  rw [Bool.or_eq_true, decide_eq_true_iff, decide_eq_true_iff, not_or]
  refine ⟨fun hlong => (u.apart f).1 ?_, fun hshort => ?_⟩
  · have htext : u.text.toList = f.long.toList := congrArg String.toList hlong.symm
    exact htext ▸ List.prefix_refl _
  -- The one option with a short spelling has a single dash in it.
  · cases f with
    | help =>
      have htext : "-h" = u.text := Option.some.inj hshort
      rw [← htext] at hrest
      cases hrest
    | setting s => cases hshort

/-- A stranger is no option that was cut short. -/
theorem filter_eq (u : Stranger) :
    (Request.known.filter fun f => u.text.toList.isPrefixOf f.long.toList) = [] := by
  rw [List.filter_eq_nil_iff]
  intro f _ hstart
  exact (u.apart f).1 (List.isPrefixOf_iff_prefix.mp hstart)

/-- A second dash is no digit. -/
theorem not_isNegativeNumber (u : Stranger) : Word.isNegativeNumber u.text.toList = false := by
  obtain ⟨rest, hrest⟩ := u.exists_toList
  have hnumber : ∃ more, (if ('-' :: rest).getLast? = some '\n' then ('-' :: rest).dropLast
      else '-' :: rest) = '-' :: more := by
    split
    · -- The line feed at the end is not the dash.
      next hlast =>
      rcases rest with _ | ⟨c, rest⟩
      · cases hlast
      · exact ⟨_, rfl⟩
    · exact ⟨rest, rfl⟩
  obtain ⟨more, hmore⟩ := hnumber
  have hdigit : ¬Text.isDigit '-' = true := by
    decide
  rw [hrest, Word.isNegativeNumber, hmore, List.dropWhile_cons_of_neg hdigit]
  rfl

theorem ofString_eq (u : Stranger) :
    Word.ofString d Request.known u.text = .ok (.unknown u.text) := by
  obtain ⟨rest, hrest⟩ := u.exists_toList
  have hdashed : ¬(u.text.toList.head? ≠ some '-' ∨ u.text = "-") := by
    rintro (hhead | htext)
    · rw [hrest] at hhead
      exact hhead rfl
    · rw [htext] at hrest
      cases hrest
  have hunnamed : Word.ofUnnamed u.text = .unknown u.text := by
    rw [Word.ofUnnamed, u.not_isNegativeNumber, Bool.false_or, if_neg]
    rw [List.contains_iff_mem]
    exact u.no_blank
  rw [Word.ofString, if_neg hdashed, u.spelled?_eq, u.cut_eq]
  dsimp only
  rw [Word.ofShortened, u.cut_eq]
  dsimp only
  rw [u.filter_eq, hrest, hunnamed]
  rfl

end Stranger

/-- An operand is one item in front of the others. -/
theorem resolve_operand {text : String} (h : Undashed text) (arguments : List String) :
    resolve d Request.known (text :: arguments) =
      (resolve d Request.known arguments).map (.operand text :: ·) :=
  resolve_of_words (words_operand h _ arguments) fun _ => rfl

/-- So is a stranger. -/
theorem resolve_stranger (u : Stranger) (arguments : List String) :
    resolve d Request.known (u.text :: arguments) =
      (resolve d Request.known arguments).map (.unknown u.text :: ·) :=
  resolve_of_words (words_cons u.ne_divider u.ofString_eq arguments) fun _ => rfl

/-- Pieces are read one by one, whatever follows them. -/
theorem resolve_spelled (pieces : List Piece) {arguments : List String}
    (h : resolve d Request.known arguments = .ok items) :
    resolve d Request.known (spelled pieces ++ arguments) = .ok (pieces.map Piece.item ++ items) := by
  induction pieces with
  | nil => exact h
  | cons p pieces ih =>
    cases p with
    | operand text undashed =>
      show resolve d Request.known (text :: (spelled pieces ++ arguments)) = _
      rw [resolve_operand undashed, ih]
      rfl
    | setting s value undashed =>
      show resolve d Request.known
        ((Flag.setting s).long :: value :: (spelled pieces ++ arguments)) = _
      rw [resolve_setting s undashed, ih]
      rfl

/-- Operands that the first reading has left are read once more. -/
theorem resolve_operands (pieces : List Piece) {arguments : List String}
    (h : resolve d Request.known arguments = .ok items) :
    resolve d Request.known (operands pieces ++ arguments) =
      .ok ((operands pieces).map .operand ++ items) := by
  induction pieces with
  | nil => exact h
  | cons p pieces ih =>
    -- An option and its value are not among what is left.
    cases p with
    | operand text undashed =>
      show resolve d Request.known (text :: (operands pieces ++ arguments)) = _
      rw [resolve_operand undashed, ih]
      rfl
    | setting s value undashed => exact ih

/-- Pieces that nothing follows, and their operands. -/
theorem resolve_pieces (pieces : List Piece) :
    resolve d Request.known (spelled pieces) = .ok (pieces.map Piece.item) ∧
      resolve d Request.known (operands pieces) = .ok ((operands pieces).map .operand) := by
  have hnil : resolve d Request.known [] = .ok [] := rfl
  have hfirst := resolve_spelled pieces hnil
  have hsecond := resolve_operands pieces hnil
  rw [List.append_nil, List.append_nil] at hfirst hsecond
  exact ⟨hfirst, hsecond⟩

/-! ### Both readings -/

/-- What a reading leaves of pieces are the operands. -/
theorem filterMap_text?_item (pieces : List Piece) :
    (pieces.map Piece.item).filterMap Item.text? = operands pieces := by
  rw [List.filterMap_map, operands]
  congr 1
  funext p
  cases p <;> rfl

theorem divider_not_mem_item (pieces : List Piece) : .divider ∉ pieces.map Piece.item := by
  intro h
  obtain ⟨p, -, hp⟩ := List.mem_map.mp h
  cases p <;> cases hp

/-- Where there is no divider, none is dropped. -/
theorem dropDivider_eq_self (h : .divider ∉ items) : Request.dropDivider items = items := by
  fun_induction Request.dropDivider items with
  | case1 => rfl
  | case2 rest => exact absurd List.mem_cons_self h
  | case3 text rest => rfl
  | case4 item rest _ _ ih => rw [ih fun hrest => h (List.mem_cons_of_mem item hrest)]

/-- Both readings of arguments, of which the first one leaves the second its texts. -/
theorem ofArguments_of_readings {arguments : List String} {first second : List Item}
    (hfirst : resolve d Request.known arguments = .ok first) (hdivider : .divider ∉ first)
    (hsecond : resolve d Request.known (first.filterMap Item.text?) = .ok second) :
    Request.ofArguments d arguments = .ok (Request.ofItems first second) := by
  rw [Request.ofArguments, hfirst]
  dsimp only
  rw [dropDivider_eq_self hdivider, hsecond]

/-- The value that an item gives to a setting, if it does. -/
def itemValue? (s : Setting) : Item → Option (Option String)
  | .setting s' value => if s' = s then some value else none
  | _ => none

theorem lastValue?_eq (s : Setting) (items : List Item) :
    lastValue? s items = (items.filterMap (itemValue? s)).getLast? :=
  rfl

theorem filterMap_itemValue?_item (s : Setting) (pieces : List Piece) :
    (pieces.map Piece.item).filterMap (itemValue? s) = (values s pieces).map some := by
  rw [List.filterMap_map, values, List.map_filterMap]
  congr 1
  funext p
  cases p with
  | operand text undashed => rfl
  | setting s' value undashed =>
    show (if s' = s then some (some value) else none) =
      (if s' = s then some value else none).map some
    split <;> rfl

/-- Operands give no value. -/
theorem filterMap_itemValue?_operand (s : Setting) (texts : List String) :
    (texts.map Item.operand).filterMap (itemValue? s) = [] := by
  rw [List.filterMap_eq_nil_iff]
  intro item hitem
  obtain ⟨text, -, rfl⟩ := List.mem_map.mp hitem
  rfl

theorem undashed_of_mem_operands {text : String} (h : text ∈ operands pieces) : Undashed text := by
  obtain ⟨p, -, hp⟩ := List.mem_filterMap.mp h
  cases p with
  | operand text' undashed =>
    cases hp
    exact undashed
  | setting s value undashed => cases hp

/-- The first of several operands fills a place, and the others remain.  What follows them must
neither be a divider nor an operand. -/
theorem slot_operands {texts : List String} {rest : List Item} (h : ∀ text ∈ texts, Undashed text)
    (hrest : rest = [] ∨ ∃ text more, rest = .unknown text :: more) :
    slot (texts.map .operand ++ rest) = (texts.head?, texts.tail.map .operand ++ rest) := by
  rcases texts with _ | ⟨text, texts⟩
  · rcases hrest with rfl | ⟨u, more, rfl⟩ <;> rfl
  · have htext : undivided text = some text := by
      refine if_neg ?_
      rintro rfl
      exact h "--" List.mem_cons_self rfl
    have hslot : slot (.operand text :: (texts.map .operand ++ rest)) =
        (undivided text, texts.map .operand ++ rest) := by
      rcases texts with _ | ⟨next, texts⟩
      · rcases hrest with rfl | ⟨u, more, rfl⟩ <;> rfl
      · rfl
    show slot (.operand text :: (texts.map .operand ++ rest)) = _
    rw [hslot, htext]
    rfl

/-- Operands with nothing in front of them are all found. -/
theorem dropWhile_operands (texts : List String) :
    (texts.map Item.operand).dropWhile (!·.inRun) = texts.map .operand ++ [] := by
  rw [List.append_nil]
  cases texts <;> rfl

/-- What is asked for, if the second reading comes upon some operands first. -/
theorem ofItems_eq {first second rest : List Item} {texts : List String}
    (hfirst : ∀ s, first.filterMap (itemValue? s) = (values s pieces).map some)
    (hsecond : ∀ s, second.filterMap (itemValue? s) = [])
    (hrun : second.dropWhile (!·.inRun) = texts.map .operand ++ rest)
    (htexts : ∀ text ∈ texts, Undashed text)
    (hrest : rest = [] ∨ ∃ text more, rest = .unknown text :: more) :
    Request.ofItems first second =
      { requested pieces with program := texts[0]?, tape := texts[1]? } := by
  have hlast : ∀ s, lastValue? s (first ++ second) = (values s pieces).getLast?.map some := by
    intro s
    rw [lastValue?_eq, List.filterMap_append, hfirst, hsecond, List.append_nil, List.getLast?_map]
  have htail : ∀ text ∈ texts.tail, Undashed text :=
    fun text h => htexts text (List.mem_of_mem_tail h)
  rw [Request.ofItems, hrun, slot_operands htexts hrest]
  dsimp only
  rw [slot_operands htail hrest, hlast, hlast, List.head?_eq_getElem?, List.head?_eq_getElem?,
    List.getElem?_tail]
  rfl

/-- **Arguments made of operands and options with values ask for the first two operands and the last
value of each setting.** -/
theorem ofArguments_spelled (pieces : List Piece) :
    Request.ofArguments d (spelled pieces) = .ok (requested pieces) := by
  obtain ⟨hfirst, hsecond⟩ := resolve_pieces pieces
  rw [← filterMap_text?_item] at hsecond
  rw [ofArguments_of_readings hfirst (divider_not_mem_item pieces) hsecond, filterMap_text?_item]
  rw [ofItems_eq (filterMap_itemValue?_item · pieces) (filterMap_itemValue?_operand · _)
    (dropWhile_operands _) (fun _ => undashed_of_mem_operands) (.inl rfl)]
  rfl

/-- The command depends on its arguments through what they ask for. -/
theorem main_congr {arguments arguments' : List String}
    (h : Request.ofArguments d arguments = Request.ofArguments d arguments') (m : Type → Type)
    [Monad m] [Host m] (name : String) (rounds : Nat) :
    Simulator.main (m := m) name arguments rounds d = Simulator.main name arguments' rounds d := by
  rw [Simulator.main, Simulator.main, h]

/-- **Operands and options may stand in any order, and only the first two operands and the last
value of each setting matter.**  The program is the first operand, the tape the second, and each
setting has the value that was given to it last.  The command serves the request for these, among
all surroundings and in either dialect.  So arguments that agree in them have the same effects and
the same end, whatever their order and whatever other operands and values there are. -/
theorem arguments_in_any_order (pieces : List Piece) :
    (∀ (m : Type → Type) [Monad m] [Host m] (name : String) (rounds : Nat) (d : Dialect),
      Simulator.main (m := m) name (spelled pieces) rounds d =
        finish (serve rounds name
          { program := (operands pieces)[0]?
            tape := (operands pieces)[1]?
            config := (values .config pieces).getLast?.map some
            logDirectory := (values .logDirectory pieces).getLast?.map some })) ∧
    ∀ pieces', (operands pieces').take 2 = (operands pieces).take 2 →
      (∀ s, (values s pieces').getLast? = (values s pieces).getLast?) →
      ∀ (m : Type → Type) [Monad m] [Host m] (name : String) (rounds : Nat) (d : Dialect),
        Simulator.main (m := m) name (spelled pieces') rounds d =
          Simulator.main name (spelled pieces) rounds d := by
  refine ⟨fun m _ _ name rounds d => ?_, fun pieces' hoperands hvalues m _ _ name rounds d => ?_⟩
  · rw [Simulator.main, ofArguments_spelled]
    rfl
  · -- The two places are filled from the first two operands.
    have hplace : ∀ i < 2, (operands pieces')[i]? = (operands pieces)[i]? := by
      intro i hi
      rw [← List.getElem?_take_of_lt hi, hoperands, List.getElem?_take_of_lt hi]
    have hrequested : requested pieces' = requested pieces := by
      rw [requested, requested, hplace 0 (by decide), hplace 1 (by decide), hvalues, hvalues]
    refine main_congr ?_ m name rounds
    rw [ofArguments_spelled, ofArguments_spelled, hrequested]

/-- An option between the program and the tape, and a second value for it behind a third operand. -/
theorem arguments_in_any_order_of_option_between :
    (operands [.operand "p" (by decide), .setting .config "c" (by decide),
        .operand "t" (by decide), .operand "x" (by decide),
        .setting .config "d" (by decide)]).take 2 =
      (operands [.setting .config "d" (by decide), .operand "p" (by decide),
        .operand "t" (by decide)]).take 2 ∧
      ∀ (name : String) (rounds : Nat) (d : Dialect),
        Simulator.main (m := StateM World) name ["p", "--config", "c", "t", "x", "--config", "d"]
            rounds d =
          Simulator.main name ["--config", "d", "p", "t"] rounds d := by
  refine ⟨rfl, fun name rounds d => ?_⟩
  refine (arguments_in_any_order [.setting .config "d" (by decide), .operand "p" (by decide),
    .operand "t" (by decide)]).2 [.operand "p" (by decide), .setting .config "c" (by decide),
      .operand "t" (by decide), .operand "x" (by decide), .setting .config "d" (by decide)]
    rfl (fun s => ?_) (StateM World) name rounds d
  cases s <;> rfl

/-! ### A stranger among the arguments -/

theorem operands_append (before after : List Piece) :
    operands (before ++ after) = operands before ++ operands after :=
  List.filterMap_append

/-- The second reading of arguments with a stranger among them. -/
theorem ofItems_stranger (before after : List Piece) (u : Stranger) :
    Request.ofItems (before.map Piece.item ++ .unknown u.text :: after.map Piece.item)
        ((operands before).map Item.operand ++
          Item.unknown u.text :: (operands after).map Item.operand) =
      { requested (before ++ after) with
        tape := if (operands before).length = 1 then none
          else (operands (before ++ after))[1]? } := by
  have hunknown : ∀ s, itemValue? s (.unknown u.text) = none := fun _ => rfl
  have hfirst : ∀ s, (before.map Piece.item ++ .unknown u.text :: after.map Piece.item).filterMap
      (itemValue? s) = (values s (before ++ after)).map some := by
    intro s
    rw [List.filterMap_append, List.filterMap_cons_none (hunknown s), filterMap_itemValue?_item,
      filterMap_itemValue?_item, values, values, values, List.filterMap_append, List.map_append]
  have hsecond : ∀ s, ((operands before).map Item.operand ++
      Item.unknown u.text :: (operands after).map Item.operand).filterMap (itemValue? s) = [] := by
    intro s
    rw [List.filterMap_append, List.filterMap_cons_none (hunknown s),
      filterMap_itemValue?_operand, filterMap_itemValue?_operand, List.append_nil]
  have htexts : ∀ text ∈ operands before, Undashed text := fun _ => undashed_of_mem_operands
  rcases hbefore : operands before with _ | ⟨program, others⟩ <;> rw [hbefore] at hsecond htexts
  -- In front of all operands a stranger is passed over.
  · have hrun : (([] : List String).map Item.operand ++
        Item.unknown u.text :: (operands after).map Item.operand).dropWhile (!·.inRun) =
        (operands after).map Item.operand ++ [] :=
      dropWhile_operands (operands after)
    rw [ofItems_eq hfirst hsecond hrun (fun _ => undashed_of_mem_operands) (.inl rfl)]
    rw [requested, operands_append, hbefore]
    rfl
  -- Behind an operand it ends the run of those that are found.
  · rw [ofItems_eq hfirst hsecond rfl htexts (.inr ⟨_, _, rfl⟩)]
    rw [requested, operands_append, hbefore]
    rcases others with _ | ⟨tape, others⟩ <;> rfl

/-- What is left to be asked for, if there is a stranger among such arguments. -/
theorem ofArguments_stranger (before after : List Piece) (u : Stranger) :
    Request.ofArguments d (spelled before ++ u.text :: spelled after) =
      .ok { requested (before ++ after) with
        tape := if (operands before).length = 1 then none
          else (operands (before ++ after))[1]? } := by
  obtain ⟨hafter, hagain⟩ := resolve_pieces after
  have hfirst : resolve d Request.known (spelled before ++ u.text :: spelled after) =
      .ok (before.map Piece.item ++ .unknown u.text :: after.map Piece.item) := by
    refine resolve_spelled before ?_
    rw [resolve_stranger, hafter]
    rfl
  have hsecond : resolve d Request.known (operands before ++ u.text :: operands after) =
      .ok ((operands before).map Item.operand ++
        Item.unknown u.text :: (operands after).map Item.operand) := by
    refine resolve_operands before ?_
    rw [resolve_stranger, hagain]
    rfl
  have hdivider : .divider ∉ before.map Piece.item ++ .unknown u.text :: after.map Piece.item := by
    rw [List.mem_append, List.mem_cons, not_or, not_or]
    exact ⟨divider_not_mem_item before, Item.noConfusion, divider_not_mem_item after⟩
  have hleft : (before.map Piece.item ++ .unknown u.text :: after.map Piece.item).filterMap
      Item.text? = operands before ++ u.text :: operands after := by
    have hunknown : Item.text? (.unknown u.text) = some u.text := rfl
    rw [List.filterMap_append, List.filterMap_cons_some hunknown, filterMap_text?_item,
      filterMap_text?_item]
  rw [← hleft] at hsecond
  rw [ofArguments_of_readings hfirst hdivider hsecond, ofItems_stranger]

/-- **A stranger does nothing, unless it stands between the program and the tape.**  There it hides
the tape, and all else is as before.  Everywhere else the same is asked for with it as without it,
and so the command has the same effects and the same end among all surroundings.  All this is so in
either dialect. -/
theorem stranger_among_arguments (d : Dialect) (before after : List Piece) (u : Stranger) :
    (((operands before).length = 1 → operands after = []) →
      Request.ofArguments d (spelled before ++ u.text :: spelled after) =
          Request.ofArguments d (spelled (before ++ after)) ∧
        ∀ (m : Type → Type) [Monad m] [Host m] (name : String) (rounds : Nat),
          Simulator.main (m := m) name (spelled before ++ u.text :: spelled after) rounds d =
            Simulator.main name (spelled (before ++ after)) rounds d) ∧
    ((operands before).length = 1 → operands after ≠ [] →
      ∃ r tape, Request.ofArguments d (spelled (before ++ after)) = .ok r ∧ r.tape = some tape ∧
        Request.ofArguments d (spelled before ++ u.text :: spelled after) =
          .ok { r with tape := none }) := by
  have hread := ofArguments_stranger (d := d) before after u
  have hplain := ofArguments_spelled (d := d) (before ++ after)
  refine ⟨fun hplace => ?_, fun hone hmore => ?_⟩
  · have hsame : Request.ofArguments d (spelled before ++ u.text :: spelled after) =
        Request.ofArguments d (spelled (before ++ after)) := by
      rw [hread, hplain]
      by_cases hone : (operands before).length = 1
      · -- A single operand has no second one to lose.
        have hnone : (operands (before ++ after))[1]? = none := by
          rw [operands_append, hplace hone, List.append_nil, List.getElem?_eq_none (by omega)]
        rw [if_pos hone, requested, hnone]
      · rw [if_neg hone, requested]
    exact ⟨hsame, main_congr hsame⟩
  · rw [if_pos hone] at hread
    obtain ⟨tape, more, hafter⟩ := List.exists_cons_of_ne_nil hmore
    refine ⟨_, tape, hplain, ?_, hread⟩
    show (operands (before ++ after))[1]? = some tape
    rw [operands_append, hafter, List.getElem?_append_right (by omega), hone]
    rfl

/-- A spelling in two dashes that has nothing in common with any option. -/
def whatOption : Stranger where
  text := "--what"
  dashes := ⟨"what".toList, rfl⟩
  no_blank := by decide
  no_equals := by decide
  apart f := by rcases f with _ | _ | _ <;> decide

/-- Behind the tape a stranger does nothing, and in front of it, the tape is lost. -/
theorem stranger_among_arguments_of_both_places :
    let d : Dialect := .late
    ((operands [.operand "p" (by decide), .operand "t" (by decide)]).length = 1 →
        operands [] = []) ∧
      Request.ofArguments d ["p", "t", "--what"] = .ok ⟨some "p", some "t", none, none⟩ ∧
      (operands [.operand "p" (by decide)]).length = 1 ∧
      Request.ofArguments d ["p", "--what", "t"] = .ok ⟨some "p", none, none, none⟩ := by
  intro d
  have hbehind := (stranger_among_arguments d
    [.operand "p" (by decide), .operand "t" (by decide)] [] whatOption).1 fun _ => rfl
  have hbetween := (stranger_among_arguments d [.operand "p" (by decide)]
    [.operand "t" (by decide)] whatOption).2 rfl (List.cons_ne_nil _ _)
  obtain ⟨r, tape, hr, -, hlost⟩ := hbetween
  rw [ofArguments_spelled] at hr
  cases hr
  exact ⟨fun _ => rfl, hbehind.1.trans (ofArguments_spelled _), rfl, hlost⟩

/-- A program and a tape that are in order, and a stranger between them: without it the machine is
run, and with it the command fails for want of a tape. -/
theorem stranger_hides_tape :
    let i : Invocation :=
      { name := "alan", arguments := ["p", "t"], dialect := .late, rounds := 4
        world :=
          { tree := ⟨[(["p"], .file [73, 110, 99, 32, 48, 32, 49, 32, 45, 62, 32, 66]),
              (["t"], .file [48])]⟩
            cwd := [], clock := ⟨2024, 5, 17, 9, 30, 0, 0⟩ } }
    let j : Invocation := { i with arguments := ["p", "--what", "t"] }
    i.arguments = spelled ([.operand "p" (by decide)] ++ [.operand "t" (by decide)]) ∧
      j.arguments = spelled [.operand "p" (by decide)] ++
        whatOption.text :: spelled [.operand "t" (by decide)] ∧
      i.outcome.1 = .ok (.finished 0) ∧ i.outcome.2.err = "" ∧
      j.outcome.1 = .ok (.finished 1) ∧ j.outcome.2.out = "" ∧
      j.outcome.2.err =
        "usage: alan <input.alan> <input.tape>\nERROR: no input.tape provided.\n" := by
  decide +kernel

end TapeMachine.Simulator
