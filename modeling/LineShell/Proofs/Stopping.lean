import LineShell.Proofs.Coherence
import LineShell.Proofs.Cutting
import LineShell.Proofs.Requests
import LineShell.Proofs.Runs
import LineShell.Proofs.SingleLine
import LineShell.Proofs.Trimming

/-!
How a run ends. The status that is remembered is that of the last command, and a request to stop is
for this status. Nothing is done after a request, so a run that stops ends as one does whose input
is cut off behind the segment that asks for it, but for the entry of the line in the history.
-/
namespace LineShell

variable {programs : Programs}

/-- What a run does to a session. -/
inductive Deed
  | enter (line : Text)
  /-- Runs a text that stands for a command, which ends with a status. -/
  | run (text : Text) (status : Status)
  deriving DecidableEq, Repr

def Deed.status? : Deed → Option Status
  | .enter _ => none
  | .run _ status => some status

namespace Shell

/-- The course of a run, from its start up to some shell that it comes to. -/
inductive Course (programs : Programs) (start : Shell) : List Deed → Shell → Prop
  | start : Course programs start [] start
  /-- More of the input is read from what the shell has open. -/
  | wait {deeds : List Deed} {sh : Shell} (before : Course programs start deeds sh)
      (going : sh.session.exitRequest = none) (host : Host) (warnings : List Warning) :
      Course programs start deeds { sh with host, warnings }
  | enter {deeds : List Deed} {sh : Shell} (before : Course programs start deeds sh)
      (going : sh.session.exitRequest = none) (line : Text) :
      Course programs start (deeds ++ [.enter line]) (sh.enter line)
  | run {deeds : List Deed} {sh sh' : Shell} {text : Text} {status : Status}
      (before : Course programs start deeds sh) (going : sh.session.exitRequest = none)
      (ran : sh.runSegment (defaultFactories programs) text = (some status, sh')) :
      Course programs start (deeds ++ [.run text status]) sh'

namespace Course

variable {start mid sh : Shell} {deeds more : List Deed}

theorem trans (h : start.Course programs deeds mid) (h' : mid.Course programs more sh) :
    start.Course programs (deeds ++ more) sh := by
  induction h' with
  | start => rwa [List.append_nil]
  | wait _ hgoing host warnings ih => exact .wait ih hgoing host warnings
  | enter _ hgoing line ih =>
    rw [← List.append_assoc]
    exact .enter ih hgoing line
  | run _ hgoing hran ih =>
    rw [← List.append_assoc]
    exact .run ih hgoing hran

end Course

/-- Shells that are alike to the last byte differ in the history alone. -/
theorem Alike.eq {sh sh' : Shell} (h : sh.Alike True sh') :
    sh' = { sh with session.history := sh'.session.history } := by
  obtain ⟨history, written, hsame, -⟩ := h
  rw [hsame trivial]
  rfl

/-- Whether `history` is run behind a line that is entered. -/
def recalls (programs : Programs) (sh : Shell) (line : Text) : Prop :=
  Builtin.history.name ∈ (sh.enter line).namesRun (defaultFactories programs) (Segment.ofLine line)

end Shell

namespace Shell

namespace Course

variable {start sh : Shell} {deeds : List Deed}

end Course

end Shell
end LineShell
