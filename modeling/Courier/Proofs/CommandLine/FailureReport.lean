import Courier.CommandLine.Run
import Courier.Proofs.Text.Quoted

/-!
# What a server can make a report say

The message of a failed call is the server's to choose. Its report is a fixed heading, which alone
may be coloured, the name of the code and the quoted message. Whatever the message is, all that
follows the heading is printable and stands on the line of the heading, so a message neither starts
a line of its own nor commands the terminal. Code and message can be told from the line: the name
of the code ends at the next space, and quoting loses nothing.
-/

namespace Courier

namespace Code

/-- The name of a code is made of letters. -/
theorem of_mem_name {code : Code} {c : Char} (mem : c ∈ code.name.toList) :
    Text.isPrintable c = true ∧ c ≠ ' ' := by
  have all : code.name.toList.all (fun c => Text.isPrintable c && c != ' ') = true := by
    cases code <;> decide
  simpa using List.all_eq_true.mp all c mem

end Code

namespace Report

/-- The heading of the report on a call that failed. -/
def failureHeading (color : Bool) : String :=
  if color then "\x1b[1;31mSend Failed:\x1b[0m" else "Send Failed:"

/-- What the report says behind its heading. -/
def failureText (s : Status) : String :=
  " code=" ++ s.code.name ++ " message=" ++ Text.quoted s.message

theorem render_ofStatus (s : Status) (color : Bool) :
    (ofStatus s).body.render color = failureHeading color ++ failureText s := by
  have headed : "\x1b[1;31m" ++ "Send Failed:" ++ "\x1b[0m" = failureHeading true := by decide
  cases color with
  | false => simp [ofStatus, body, heading, Text.Styled.render, Text.Styled.plain, failureHeading,
      failureText, String.join]
  | true =>
    rw [← headed]
    simp [ofStatus, body, heading, Text.Styled.render, Text.Styled.colored, Text.Span.colored,
      Text.Span.sequence, failureText, String.join]

variable {s t : Status}

theorem isPrintable_of_mem_failureText {c : Char} (mem : c ∈ (failureText s).toList) :
    Text.isPrintable c = true := by
  have labels : (" code=".toList ++ " message=".toList).all Text.isPrintable = true := by decide
  simp only [failureText, String.toList_append, List.mem_append] at mem
  rcases mem with ((code | name) | message) | quoted
  · exact List.all_eq_true.mp labels c (List.mem_append_left _ code)
  · exact (Code.of_mem_name name).1
  · exact List.all_eq_true.mp labels c (List.mem_append_right _ message)
  · exact Text.isPrintable_of_mem_quoted quoted

/-- The name of the code ends where the next label begins, since there is no space in a name. -/
theorem failureText_inj :
    failureText s = failureText t ↔ s.code = t.code ∧ s.message = t.message := by
  constructor
  · intro same
    have label : " message=".toList = ' ' :: "message=".toList := by decide
    have free (s : Status) : ' ' ∉ s.code.name.toList := fun mem => (Code.of_mem_name mem).2 rfl
    have chars := congrArg String.toList same
    simp only [failureText, String.toList_append, List.append_assoc] at chars
    have behind := List.append_cancel_left chars
    have words := congrArg (List.splitOn ' ') behind
    rw [label, List.cons_append, List.cons_append,
      List.splitOn_append_cons_self_of_not_mem (free s),
      List.splitOn_append_cons_self_of_not_mem (free t)] at words
    have names := (List.cons.inj words).1
    rw [names] at behind
    have quotes := List.append_cancel_left (List.append_cancel_left behind)
    exact ⟨Code.name_injective (String.toList_inj.mp names),
      Text.quoted_inj.mp (String.toList_inj.mp quotes)⟩
  · rintro ⟨code, message⟩
    rw [failureText, failureText, code, message]

/-- A report on one line is printed as an empty line and that line. -/
theorem splitOn_display {r : Report} {color : Bool} (single : '\n' ∉ (r.body.render color).toList) :
    (r.display color).toList.splitOn '\n' = [[], (r.body.render color).toList, []] := by
  have printed : (r.display color).toList =
      ['\n'].intercalate [[], (r.body.render color).toList, []] := by
    simp [display, List.intercalate]
  rw [printed]
  refine List.splitOn_intercalate '\n' ?_ (by simp)
  simp [single]

theorem display_inj {r q : Report} {color : Bool} :
    r.display color = q.display color ↔ r.body.render color = q.body.render color := by
  constructor
  · intro same
    have chars := congrArg String.toList same
    simp only [display, String.toList_append, List.append_assoc] at chars
    exact String.toList_inj.mp (List.append_cancel_right (List.append_cancel_left chars))
  · intro same
    rw [display, display, same]

/-- The report on a failed call is its heading and a text that is printable throughout, so that no
control character is in it: it is printed as one empty line and one line of text. Two failures are
reported alike, in the same colours, if and only if they have the same code and the same message. -/
theorem failure_report_cannot_be_forged (color : Bool) (s : Status) :
    (∃ text : String, (ofStatus s).body.render color = failureHeading color ++ text ∧
      (∀ c ∈ text.toList, Text.isPrintable c = true ∧ 0x20 ≤ c.toNat ∧ c.toNat ≠ 0x7F) ∧
      ((ofStatus s).display color).toList.splitOn '\n' =
        [[], (failureHeading color ++ text).toList, []]) ∧
    ∀ t : Status,
      ((ofStatus s).body.render color = (ofStatus t).body.render color ↔
        s.code = t.code ∧ s.message = t.message) ∧
      ((ofStatus s).display color = (ofStatus t).display color ↔
        s.code = t.code ∧ s.message = t.message) := by
  have told (t : Status) : (ofStatus s).body.render color = (ofStatus t).body.render color ↔
      s.code = t.code ∧ s.message = t.message := by
    rw [render_ofStatus, render_ofStatus, String.append_right_inj, failureText_inj]
  refine ⟨⟨failureText s, render_ofStatus s color, ?_, ?_⟩, ?_⟩
  · intro c mem
    have printable := isPrintable_of_mem_failureText mem
    exact ⟨printable, Text.le_of_isPrintable printable⟩
  · rw [← render_ofStatus]
    apply splitOn_display
    rw [render_ofStatus, String.toList_append, List.mem_append]
    rintro (inHeading | inText)
    · cases color <;> revert inHeading <;> decide
    · have printable := isPrintable_of_mem_failureText inText
      revert printable
      decide
  · intro t
    exact ⟨told t, display_inj.trans (told t)⟩

/-- A failure whose message closes its quotes, starts a line, imitates a report and clears the
screen. -/
def forgery : Status :=
  { code := .unknown
    message := "\"\n\nSend Failed: code=Ok message=\"\x1b[2J" }

theorem forgery_stays_on_one_line :
    ((ofStatus forgery).display false).toList.splitOn '\n' =
      [[], ("Send Failed: code=Unknown message=\"\\\"\\n\\nSend Failed: code=Ok "
        ++ "message=\\\"\\u\x7b1b\x7d[2J\"").toList, []] ∧
    (∃ text : String, (ofStatus forgery).body.render true = failureHeading true ++ text ∧
      '\\' ∈ text.toList ∧ Text.isPrintable '\\' = true) ∧
    (ofStatus forgery).display false ≠
      (ofStatus { code := .ok, message := forgery.message }).display false := by
  obtain ⟨⟨text, rendered, -, lines⟩, told⟩ := failure_report_cannot_be_forged false forgery
  obtain ⟨⟨coloured, renderedInColour, printable, -⟩, -⟩ :=
    failure_report_cannot_be_forged true forgery
  have behind : '\\' ∈ coloured.toList := by
    rw [render_ofStatus, String.append_right_inj] at renderedInColour
    rw [← renderedInColour]
    decide +kernel
  refine ⟨?_, ⟨coloured, renderedInColour, behind, (printable _ behind).1⟩, ?_⟩
  · rw [lines, ← rendered]
    decide +kernel
  · intro same
    exact absurd ((told _).2.mp same).1 (by decide)

end Report

end Courier
