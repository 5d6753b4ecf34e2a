import Mathlib.Data.List.TakeWhile
import PocketCalculator.Proofs.Keypad.Steps

/-! The room for text shows in a run only by what is refused for lack of it. -/

namespace PocketCalculator

/-- Whether nothing was refused for lack of room. -/
def Response.hadRoom (response : Response) : Bool :=
  response.refusal ≠ some .inputFull

namespace Keypad

section

variable {unit : AngleUnit} {capacity more : Nat} {display : Display} {key : KeyPress}

/-- What had room has more than enough where there is more. -/
theorem Responds.of_hadRoom {response : Response}
    (responds : Responds ⟨unit, capacity⟩ display key response) (had : response.hadRoom)
    (room : capacity ≤ more) : Responds ⟨unit, more⟩ display key response := by
  -- Every condition on the room stays true with more of it; the two refusals for want of room are
  -- excluded.
  cases responds with
  | unknown isLabel noButton => exact .unknown isLabel noButton
  | cleared asks => exact .cleared asks
  | deleted asks => exact .deleted asks
  | failed asks worth => exact .failed asks worth
  | worked asks worth fits => exact .worked asks worth (Nat.le_trans fits room)
  | added types fits => exact .added types (Nat.le_trans fits room)
  | long | full => cases had

/-- So a calculator with more room responds in the same way. -/
theorem respond_of_hadRoom (had : (respond ⟨unit, capacity⟩ display key).hadRoom)
    (room : capacity ≤ more) :
    respond ⟨unit, more⟩ display key = respond ⟨unit, capacity⟩ display key :=
  -- The response is one that more room allows, and each room allows one response only.
  ((responds ⟨unit, capacity⟩ display key).of_hadRoom had room).eq_respond.symm

/-- The room that is enough for whatever a key press puts on the display. -/
def roomFor (unit : AngleUnit) (display : Display) (key : KeyPress) : Nat :=
  -- A typed text stands behind the old one, and a result stands by itself.
  display.text.utf8ByteSize + (key.typed?.getD "").utf8ByteSize
    + match evaluate unit display.text with
      | .ok result => (resultText result).utf8ByteSize
      | .error _ => 0

/-- With this room nothing is refused for lack of it. -/
theorem Responds.hadRoom {response : Response}
    (responds : Responds ⟨unit, capacity⟩ display key response)
    (enough : roomFor unit display key ≤ capacity) : response.hadRoom := by
  -- Two responses are refused for want of room, and in both the room needed is more than there is.
  cases responds with
  | unknown | cleared | deleted | failed | worked | added => rfl
  | @long result asks worth long =>
    have short : capacity < (resultText result).utf8ByteSize := long
    simp only [roomFor, worth] at enough
    omega
  | @full typed types full =>
    have short : capacity < display.text.utf8ByteSize + typed.utf8ByteSize := full
    simp only [roomFor, types, Option.getD_some] at enough
    omega

end

section

variable (unit : AngleUnit) {capacity more : Nat}

/-- There is a response to every key press. -/
theorem length_responses (keypad : Keypad) (display : Display) (keys : List KeyPress) :
    (keypad.responses display keys).length = keys.length := by
  -- By induction on the keys, one response for each.
  induction keys generalizing display with
  | nil => rfl
  | cons key keys ih => exact congrArg Nat.succ (ih _)

/-- A calculator with more room goes the same way up to the first refusal for lack of room. -/
theorem takeWhile_hadRoom_prefix (room : capacity ≤ more) (display : Display)
    (keys : List KeyPress) :
    (responses ⟨unit, capacity⟩ display keys).takeWhile Response.hadRoom
      <+: responses ⟨unit, more⟩ display keys := by
  -- As long as there was room, both meet the next key with the same display.
  induction keys generalizing display with
  | nil => exact List.nil_prefix
  | cons key keys ih =>
    rw [responses]
    cases had : (respond ⟨unit, capacity⟩ display key).hadRoom with
    | false =>
      rw [List.takeWhile_cons_of_neg (by simp [had])]
      exact List.nil_prefix
    | true =>
      rw [List.takeWhile_cons_of_pos had, responses, respond_of_hadRoom had room]
      exact List.cons_prefix_cons.mpr ⟨rfl, ih _⟩

/-- If there was always room, the two go the same way all along. -/
theorem responses_of_hadRoom (room : capacity ≤ more) {display : Display} {keys : List KeyPress}
    (had : ∀ response ∈ responses ⟨unit, capacity⟩ display keys, response.hadRoom) :
    responses ⟨unit, more⟩ display keys = responses ⟨unit, capacity⟩ display keys := by
  -- Up to the first refusal the runs agree, and there is none.
  have common := takeWhile_hadRoom_prefix unit room display keys
  rw [List.takeWhile_eq_self_iff.mpr had] at common
  refine (common.eq_of_length ?_).symm
  rw [length_responses, length_responses]

/-- For every run there is a room with which nothing is refused for lack of it. -/
theorem exists_hadRoom (display : Display) (keys : List KeyPress) :
    ∃ enough, ∀ response ∈ responses ⟨unit, enough⟩ display keys, response.hadRoom := by
  induction keys generalizing display with
  | nil => exact ⟨0, nofun⟩
  | cons key keys ih =>
    -- What the first key needs is enough to know the display that the others begin with.
    let first := roomFor unit display key
    have had : (respond ⟨unit, first⟩ display key).hadRoom :=
      (responds ⟨unit, first⟩ display key).hadRoom (Nat.le_refl first)
    obtain ⟨later, others⟩ := ih (respond ⟨unit, first⟩ display key).display
    refine ⟨max first later, ?_⟩
    have same := respond_of_hadRoom had (Nat.le_max_left first later)
    rw [responses, same, responses_of_hadRoom unit (Nat.le_max_right first later) others]
    exact List.forall_mem_cons.mpr ⟨had, others⟩

end

/--
The room of a calculator does not matter until it refuses something for lack of it.

With more room a run without such a refusal goes the same way.
So every run has one course without bounds, which all calculators with enough room take, and every other
one takes as far as its first refusal for lack of room.
-/
theorem responses_of_room (unit : AngleUnit) (keys : List KeyPress) :
    (∀ capacity more, capacity ≤ more →
        (∀ response ∈ responses ⟨unit, capacity⟩ Display.blank keys,
          response.refusal ≠ some .inputFull) →
        responses ⟨unit, more⟩ Display.blank keys = responses ⟨unit, capacity⟩ Display.blank keys)
      ∧ ∃ unbounded : List Response,
        (∀ response ∈ unbounded, response.refusal ≠ some .inputFull)
          ∧ (∃ enough, ∀ capacity, enough ≤ capacity →
            responses ⟨unit, capacity⟩ Display.blank keys = unbounded)
          ∧ ∀ capacity,
            (responses ⟨unit, capacity⟩ Display.blank keys).takeWhile
              (fun response => response.refusal ≠ some .inputFull) <+: unbounded := by
  constructor
  · intro capacity more room had
    exact responses_of_hadRoom unit room fun response member => decide_eq_true (had response member)
  · obtain ⟨enough, had⟩ := exists_hadRoom unit Display.blank keys
    refine ⟨responses ⟨unit, enough⟩ Display.blank keys, ?_, ⟨enough, ?_⟩, ?_⟩
    · intro response member
      exact of_decide_eq_true (had response member)
    · intro capacity room
      exact responses_of_hadRoom unit room had
    · intro capacity
      -- Whichever of the two has more room, a third one has at least as much as both.
      have common := takeWhile_hadRoom_prefix unit (Nat.le_max_left capacity enough) Display.blank keys
      rwa [responses_of_hadRoom unit (Nat.le_max_right capacity enough) had] at common

/-- On a display of two places a number of two digits is typed, worked out, cut and typed again. -/
theorem responses_of_room_exact :
    responses ⟨.degrees, 64⟩ Display.blank
          [.label "1", .label "2", .label "=", .label "DEL", .label "MR", .label "5"]
        = responses ⟨.degrees, 2⟩ Display.blank
          [.label "1", .label "2", .label "=", .label "DEL", .label "MR", .label "5"]
      ∧ displayAfter ⟨.degrees, 2⟩ Display.blank
          [.label "1", .label "2", .label "=", .label "DEL", .label "MR", .label "5"]
        = ⟨"15", none⟩ := by
  -- Two bytes are enough for this run: the results and all texts have at most two characters.
  obtain ⟨alike, -⟩ := responses_of_room .degrees
    [.label "1", .label "2", .label "=", .label "DEL", .label "MR", .label "5"]
  exact ⟨alike 2 64 (by decide) (by decide +kernel), by decide +kernel⟩

end Keypad

end PocketCalculator
