import PocketCalculator.Proofs.CommandLine.Arguments
import PocketCalculator.Proofs.Text.Split

/-! A conversation is made of its replies, each to a line and from the state that the lines before leave. -/

namespace PocketCalculator

namespace Session

/-- The state of a conversation after some lines. -/
def after (session : Session) (lines : List String) : Session :=
  lines.foldl (fun reached line => (reached.reply line).1) session

/-- The reply to each of some lines. -/
def replyTexts (session : Session) : List String → List String
  | [] => []
  -- The next reply comes from the state that this one leaves.
  | line :: lines => (session.reply line).2 :: replyTexts (session.reply line).1 lines

/-- Every reply follows an invitation, and one more invitation follows them all. -/
theorem replies_eq (session : Session) (lines : List String) :
    session.replies lines
      = String.join ((session.replyTexts lines).map (invitation ++ ·)) ++ invitation := by
  -- What follows a reply is the conversation from the state that the reply leaves.
  induction lines generalizing session with
  | nil => rfl
  | cons line lines ih =>
    have next : session.replies (line :: lines)
        = invitation ++ (session.reply line).2 ++ (session.reply line).1.replies lines := rfl
    rw [next, ih, replyTexts, List.map_cons, String.join_cons, ← String.append_assoc]

/-- A conversation begins with its header and goes on with the lines of the input. -/
theorem transcript_join (session : Session) {lines : List String} (areLines : AreLines lines) :
    session.transcript (String.join lines)
      = session.header
        ++ String.join ((session.replyTexts lines).map (invitation ++ ·)) ++ invitation := by
  -- The input is cut back into the very lines it was joined from.
  have cut : session.transcript (String.join lines)
      = session.header ++ session.replies (textLines (String.join lines)) := rfl
  rw [cut, textLines_join areLines, replies_eq, String.append_assoc]

end Session

end PocketCalculator
