import SnowAgent.StoryToken

/-! # Runs of Story calls

The daemon with its Story plan and apply calls, one after another or interleaved.
A token is good for one successful write as long as no call is excused from its
check; the run at the end has one that is.
-/
namespace SnowAgent

open Json Interleaving Program StoryWrite

/-- The Story calls. -/
inductive StoryCall where
  | plan (tool : String) (params : Value)
  | apply (tool : String) (params : Value)
deriving DecidableEq

/-- `handle_story_plan` and `handle_story_apply`. -/
def handleStory (state : DaemonState) : StoryCall → Handler JsonRpcResponse
  | .plan tool params => handleStoryPlan state tool params
  | .apply tool params => handleStoryApply state tool params

namespace StoryCall

/-- The token a call presents. -/
def presents : StoryCall → Option String
  | .plan .. => none
  | .apply _ params => stringParam params "confirmation_token"

end StoryCall

/-! ## Sample calls -/

/-- A plan call for a Story with these fields. -/
def planStory (fields : List (String × Value)) : Move StoryCall :=
  .call (.plan "story_plan_create" (obj ([("short_description", .string "title"),
    ("description", .string "text"), ("assigned_to", .null),
    ("u_story_owner", .string "0123456789abcdef0123456789abcdef")] ++ fields)))

/-- An apply call of the first plan. -/
def applyStory (key : String) : Move StoryCall :=
  .call (.apply "story_apply_create" (obj [("plan_id", .string "id-0"),
    ("confirmation_token", .string "id-2"), ("idempotency_key", .string key)]))

section Token

variable {state : DaemonState} {tokenId : String} {world : World}
  {c : Config DaemonIO World StoryCall JsonRpcResponse}

/-- Every Story call that presents a token keeps the discipline. -/
theorem handleStory_disciplined {call : StoryCall} (h : call.presents = some tokenId) :
    Disciplined tokenId Ticket.Excused (handleStory state call) Ticket.blank := by
  cases call with
  | plan => cases h
  | apply tool params => exact handleStoryApply_keeps state h

end Token

end SnowAgent
