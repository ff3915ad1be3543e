import Courier.Log.Filter
import Mathlib.Data.String.Basic

/-!
# Directives that are cut at the right places

The parts of a directive are found in the text without the blanks around it and cut from the text
with them. Without a blank in front the places are the same, and in ASCII every place is one to cut
at; in either case no part is cut through a character (`settles_read`). A setting of which all
directives are like that is always settled (`ofSetting_of_straight`): only a blank in front of a
directive together with a character beyond ASCII can end in a crash.
-/

namespace Courier

namespace Text

/-! ## Edges of characters -/

/-- A place that is not within a character of the text. -/
def IsEdge (s : String) (place : Nat) : Prop := characterAround? place 0 s.toList = none

/-- Behind some characters of a text there is an edge. -/
theorem characterAround?_append (first : Nat) (front behind : List Char) :
    characterAround? (first + String.utf8Len front) first (front ++ behind) = none := by
  induction front generalizing first with
  | nil =>
    cases behind with
    | nil => rfl
    | cons c cs => exact if_pos (Nat.le_refl _)
  | cons c cs ih =>
    have step : first + String.utf8Len (c :: cs) = first + c.utf8Size + String.utf8Len cs := by
      rw [String.utf8Len_cons]
      omega
    have positive := c.utf8Size_pos
    rw [List.cons_append, characterAround?, if_neg (by rw [step]; omega),
      if_neg (by rw [step]; omega), step]
    exact ih _

theorem isEdge_of_prefix {s : String} {front : List Char} (starts : front <+: s.toList) :
    IsEdge s (String.utf8Len front) := by
  obtain ⟨behind, whole⟩ := starts
  have edge := characterAround?_append 0 front behind
  rw [Nat.zero_add, whole] at edge
  exact edge

theorem isEdge_end (s : String) : IsEdge s s.utf8ByteSize := by
  have edge := isEdge_of_prefix (List.prefix_refl s.toList)
  rw [← String.utf8ByteSize_ofList, String.ofList_toList] at edge
  exact edge

/-- In ASCII there is an edge everywhere. -/
theorem characterAround?_of_single {cs : List Char} (single : ∀ c ∈ cs, c.utf8Size = 1)
    (place first : Nat) : characterAround? place first cs = none := by
  induction cs generalizing first with
  | nil => rfl
  | cons c cs ih =>
    rw [characterAround?, single c List.mem_cons_self]
    split
    · rfl
    · rw [if_neg (by omega)]
      exact ih (fun c mem => single c (List.mem_cons_of_mem _ mem)) _

theorem cut_of_edges {s : String} {start stop : Nat} (first : IsEdge s start)
    (last : IsEdge s stop) : ∃ t, cut s start stop = .ok t := by
  rw [IsEdge] at first last
  rw [cut, first, last]
  exact ⟨_, rfl⟩

end Text

namespace Log

open Text (IsEdge)

/-! ## Directives that are read without a crash -/

/-- A text in ASCII, or one without a blank in front. -/
def Straight (s : String) : Prop :=
  (∀ c ∈ s.toList, c.utf8Size = 1) ∨ Text.trimStart s.toList = s.toList

/-- What is read of a straight text ends at an edge of the whole. -/
theorem Straight.isEdge {s : String} (straight : Straight s) {front : List Char}
    (starts : front <+: Text.trim s.toList) : IsEdge s (String.utf8Len front) := by
  rcases straight with single | bare
  · exact Text.characterAround?_of_single single _ _
  · refine Text.isEdge_of_prefix (starts.trans ?_)
    rw [Text.trim, bare, Text.trimEnd, Text.trimStart, ← List.reverse_suffix, List.reverse_reverse]
    exact List.dropWhile_suffix _

/-- A reading that cuts no character, and of which what is read has a property. -/
def Settles {α : Type} (P : α → Prop) : Except Directive.Fault α → Prop
  | .ok a => P a
  | .error .malformed => True
  | .error (.cut _) => False

namespace Settles

variable {α β : Type} {P : α → Prop} {Q : β → Prop}

theorem bind {x : Except Directive.Fault α} {f : α → Except Directive.Fault β}
    (first : Settles P x) (next : ∀ a, P a → Settles Q (f a)) : Settles Q (x >>= f) := by
  cases x with
  | ok a => exact next a first
  | error fault =>
    cases fault with
    | malformed => exact trivial
    | cut fault => exact first

theorem map {x : Except Directive.Fault α} {f : α → β} (first : Settles P x)
    (next : ∀ a, P a → Q (f a)) : Settles Q (x.map f) := by
  cases x with
  | ok a => exact next a first
  | error fault => cases fault <;> exact first

end Settles

theorem settles_part {text : String} {start stop : Nat} (first : IsEdge text start)
    (last : IsEdge text stop) : Settles (fun _ => True) (part text start stop) := by
  obtain ⟨t, same⟩ := Text.cut_of_edges first last
  rw [part, same]
  exact trivial

theorem settles_wellFormed {α : Type} (found : Option α) :
    Settles (fun _ => True) (wellFormed found) := by
  cases found <;> exact trivial

namespace Reader

/-- A reader whose part, if it reads one, starts at an edge. -/
def Aligned (text : String) (r : Reader) : Prop :=
  match r.stage with
  | .word start | .span start | .field start | .level start => IsEdge text start
  | .first | .fieldEnd | .spanEnd => True

/-- A reader that starts a part at a character or behind it starts it at an edge. -/
theorem settles_stageAfter {text : String} {r : Reader} {c : Char} (aligned : r.Aligned text)
    (before : IsEdge text r.place) (behind : IsEdge text (r.place + c.utf8Size)) :
    Settles (Aligned text) (r.stageAfter text c) := by
  have start := aligned
  unfold stageAfter
  unfold Aligned at start
  cases stage : r.stage with
  | first =>
    dsimp only
    split
    · next opens =>
      subst opens
      exact behind
    · split
      · exact before
      · exact trivial
  | word place =>
    rw [stage] at start
    dsimp only
    split
    · next ends =>
      refine (settles_part start before).bind fun target _ => ?_
      rcases ends with rfl | rfl
      · exact behind
      · exact behind
    · exact aligned
  | span place =>
    rw [stage] at start
    dsimp only
    split
    · exact (settles_part start before).bind fun _ _ => trivial
    · split
      · next opens =>
        subst opens
        exact (settles_part start before).bind fun _ _ => behind
      · exact aligned
  | field place =>
    rw [stage] at start
    dsimp only
    split
    · exact (settles_part start before).bind fun _ _ =>
        (settles_wellFormed _).bind fun _ _ => trivial
    · exact aligned
  | fieldEnd =>
    dsimp only
    split <;> exact trivial
  | spanEnd =>
    dsimp only
    split
    · next opens =>
      subst opens
      exact behind
    · exact trivial
  | level place => exact aligned

/-- Reading on keeps the place behind what was read, and the part at an edge. -/
theorem settles_foldlM {text : String} (straight : Straight text) {rest : List Char} :
    ∀ (front : List Char) (r : Reader), front ++ rest = Text.trim text.toList →
      r.place = String.utf8Len front → r.Aligned text →
      Settles (Aligned text) (rest.foldlM (step text) r) := by
  induction rest with
  | nil => exact fun _ _ _ _ aligned => aligned
  | cons c cs ih =>
    intro front r whole place aligned
    have before : front <+: Text.trim text.toList := ⟨_, whole⟩
    have behind : front ++ [c] <+: Text.trim text.toList := ⟨cs, by
      rw [← whole, List.append_assoc, List.singleton_append]⟩
    have next : r.place + c.utf8Size = String.utf8Len (front ++ [c]) := by
      rw [place, String.utf8Len_append, String.utf8Len_cons, String.utf8Len_nil, Nat.zero_add]
    have aligned' : Settles (Aligned text) (r.stageAfter text c) :=
      settles_stageAfter aligned (by rw [place]; exact straight.isEdge before)
        (by rw [next]; exact straight.isEdge behind)
    have moved : Settles (fun r' => r'.place = String.utf8Len (front ++ [c]) ∧ r'.Aligned text)
        (r.step text c) := aligned'.map fun r' edge => ⟨next, edge⟩
    rw [List.foldlM_cons]
    refine moved.bind fun r' ⟨place', edge⟩ => ih (front ++ [c]) r' ?_ place' edge
    rw [← whole, List.append_assoc, List.singleton_append]

theorem settles_finish {text : String} {r : Reader} (aligned : r.Aligned text) :
    Settles (fun _ => True) (r.finish text) := by
  unfold Aligned at aligned
  unfold finish
  cases stage : r.stage with
  | word place =>
    rw [stage] at aligned
    refine (settles_part aligned (Text.isEdge_end text)).bind fun word _ => ?_
    cases Level.ofText? word <;> exact trivial
  | level place =>
    rw [stage] at aligned
    refine (settles_part aligned (Text.isEdge_end text)).bind fun word _ => ?_
    split
    · exact trivial
    · exact (settles_wellFormed _).bind fun _ _ => trivial
  | spanEnd => exact trivial
  | first | span | field | fieldEnd => exact trivial

end Reader

/-- No part of a straight directive is cut through a character. -/
theorem settles_read {s : String} (straight : Straight s) :
    Settles (fun _ => True) (Directive.read s) :=
  (Reader.settles_foldlM straight [] {} rfl rfl trivial).bind
    fun _ aligned => Reader.settles_finish aligned

namespace Filter

theorem settles_mapM {parts : List String} (straight : ∀ s ∈ parts, Straight s) :
    Settles (fun _ => True) (parts.mapM Directive.read) := by
  induction parts with
  | nil => exact trivial
  | cons s rest ih =>
    rw [List.mapM_cons]
    exact (settles_read (straight s List.mem_cons_self)).bind fun directive _ =>
      (ih fun t mem => straight t (List.mem_cons_of_mem _ mem)).bind fun directives _ => trivial

/-- A setting of straight directives is settled. -/
theorem ofSetting_of_straight {setting : Option String}
    (straight : ∀ value, setting = some value → ∀ s ∈ value.splitOn ",", Straight s) :
    ∃ filter, ofSetting setting = .ok filter := by
  cases setting with
  | none => exact ⟨_, rfl⟩
  | some value =>
    have settles : Settles (fun _ => True) (read value) :=
      (settles_mapM fun s mem => straight value rfl s (List.mem_of_mem_filter mem)).map
        fun _ _ => trivial
    unfold ofSetting
    rw [Option.map_some]
    match found : read value, settles with
    | .ok filter, _ => exact ⟨filter, rfl⟩
    | .error .malformed, _ => exact ⟨_, rfl⟩

end Filter

end Log

end Courier
