import SnowAgent.StoryFields

/-! # Assignees and owners of a Story

A plan that leaves out the assignee or the story owner gets the caller's own user
record, when the caller's email or user name names exactly one active user.  The
warnings say what was substituted, with the email masked.
-/
namespace SnowAgent

open Json Text

namespace Story

/-- `Actor` of the domain module. -/
structure Actor where
  subject : String
  email : Option String
  displayName : Option String
deriving DecidableEq

/-- `PiiEmailMask`. -/
structure PiiEmailMask where
  emailLocalPart : String
  domainHash : String
deriving DecidableEq

/-- `receipt_identity`. -/
def PiiEmailMask.receiptIdentity (mask : PiiEmailMask) : String :=
  mask.emailLocalPart ++ "@<sha256:" ++ mask.domainHash ++ ">"

/-- `mask_email_for_receipt`: the domain is kept as the first eight digits of its hash. -/
def maskEmailForReceipt (sha256 : Sha256) (email : String) : PiiEmailMask :=
  let (localPart, domain) := (splitOnce email '@').getD (email, "")
  let digest := hexEncode (sha256 (toAsciiLowercase (trim domain)).toUTF8)
  { emailLocalPart := trim localPart
    domainHash := String.ofList (digest.toList.take 8) }

/-- `hash_email_for_audit`. -/
def hashEmailForAudit (sha256 : Sha256) (email : String) : String :=
  hexEncode (sha256 (toAsciiLowercase (trim email)).toUTF8)

/-- `assignee_defaulted_warning_message`. -/
def assigneeDefaultedWarningMessage (mask : PiiEmailMask) : String :=
  "Substituted caller identity (" ++ mask.receiptIdentity ++ ") for omitted assignee."

/-- `assignee_unresolved_warning_message`. -/
def assigneeUnresolvedWarningMessage : Option PiiEmailMask → String
  | some mask =>
    "Caller identity (" ++ mask.receiptIdentity ++
      ") did not resolve to a sys_user; field left blank."
  | none => "Caller identity did not resolve to a sys_user; field left blank."

/-- `dedupe_strings`: the first of equal texts stays. -/
def dedupeStrings (values : List String) : List String :=
  values.foldl (fun seen value => if seen.contains value then seen else seen ++ [value]) []

/-- `assignee_ambiguous_warning_data`, as JSON. -/
def assigneeAmbiguousWarningData (sha256 : Sha256) (email : String)
    (candidateSysIds : List String) : Value :=
  let mask := maskEmailForReceipt sha256 email
  let candidates := dedupeStrings candidateSysIds
  obj ([("email_local_part", .string mask.emailLocalPart),
      ("domain_hash", .string mask.domainHash)] ++
    if candidates.isEmpty then [] else [("candidate_sys_ids", strings candidates)])

end Story

namespace StoryWrite

open Story

/-- `find_active_user_sys_ids`: a failed query finds nobody. -/
def findActiveUserSysIds (field value : String) : Program SnowReads (List String) := do
  let answer ← SnowRead.execute
    { table := "sys_user"
      filters := [.equals field value, .equals "active" "true"]
      fields := ["sys_id"]
      limit := 3 }
  match answer with
  | .ok rows => return rows.map TableRow.sysId
  | .error _ => return []

/-- The users an optional, non-blank text names. -/
def usersNamedBy (field : String) (value : Option String) : Program SnowReads (List String) :=
  match (value.map trim).filter (· ≠ "") with
  | none => pure []
  | some value => findActiveUserSysIds field value

/-- `resolve_actor_sys_user_sys_id`. -/
def resolveActorSysUserSysId (actor : Actor) : Program SnowReads (Option String) := do
  match ← usersNamedBy "email" actor.email with
  | [sysId] => return some sysId
  | _ =>
    let subject := trim actor.subject
    if subject = "" then return none
    if isSysId subject then return some subject
    match ← findActiveUserSysIds "user_name" subject with
    | [sysId] => return some sysId
    | _ => return none

/-- `default_story_owner_from_actor`. -/
def defaultStoryOwnerFromActor (payload : Value) (actor : Actor) :
    Program SnowReads (Value × List ReceiptWarning) := do
  match payload with
  | .object fields =>
    if containsKey "u_story_owner" fields then return (payload, [])
    match ← resolveActorSysUserSysId actor with
    | none => return (payload, [])
    | some sysId =>
      return (inject payload "u_story_owner" (.string sysId),
        [receiptWarning "STORY_OWNER_DEFAULTED_FROM_CALLER" (some "u_story_owner")
          "Substituted caller identity for omitted story owner."
          (some (obj [("source", .string "caller_identity")]))])
  | payload => return (payload, [])

/-- The warning for an assignee that names nobody. -/
def assigneeUnresolvedWarning (sha256 : Sha256) (email : Option String) : ReceiptWarning :=
  let mask := email.map (maskEmailForReceipt sha256)
  receiptWarning "ASSIGNEE_UNRESOLVED" (some "assigned_to") (assigneeUnresolvedWarningMessage mask)
    (mask.map fun mask =>
      obj [("email_local_part", .string mask.emailLocalPart),
        ("domain_hash", .string mask.domainHash),
        ("email_sha256", ofOption Value.string (email.map (hashEmailForAudit sha256)))])

/-- The warning for an assignee that names several users. -/
def assigneeAmbiguousWarning (sha256 : Sha256) (email : Option String)
    (ambiguous : List String) : ReceiptWarning :=
  receiptWarning "ASSIGNEE_AMBIGUOUS" (some "assigned_to")
    "Multiple sys_user records matched caller identity; field left blank. Specify assigned_to explicitly."
    (some (match email with
      | none => obj [("candidate_sys_ids", strings ambiguous)]
      | some email =>
        inject (assigneeAmbiguousWarningData sha256 email ambiguous) "email_sha256"
          (.string (hashEmailForAudit sha256 email))))

/-- `default_assignee_from_actor`. -/
def defaultAssigneeFromActor (sha256 : Sha256) (fields : List (String × Value))
    (actor : Actor) : Program SnowReads (Value × List ReceiptWarning) := do
  let byEmail ← usersNamedBy "email" actor.email
  match byEmail with
  | [sysId] =>
    let email := trim (actor.email.getD "")
    let mask := maskEmailForReceipt sha256 email
    return (.object (insert "assigned_to" (.string sysId) fields),
      [receiptWarning "ASSIGNEE_DEFAULTED_FROM_CALLER" (some "assigned_to")
        (assigneeDefaultedWarningMessage mask)
        (some (obj [("email_local_part", .string mask.emailLocalPart),
          ("domain_hash", .string mask.domainHash),
          ("email_sha256", .string (hashEmailForAudit sha256 email)),
          ("source", .string "email_match")]))])
  | byEmail =>
    let byName ← usersNamedBy "user_name" (some actor.subject)
    match byName with
    | [sysId] =>
      return (.object (insert "assigned_to" (.string sysId) fields),
        [receiptWarning "ASSIGNEE_DEFAULTED_FROM_CALLER" (some "assigned_to")
          "Substituted caller identity for omitted assignee."
          (some (obj [("source", .string "user_name_match")]))])
    | byName =>
      let ambiguous := byEmail ++ byName
      let warning :=
        if ambiguous.isEmpty then assigneeUnresolvedWarning sha256 actor.email
        else assigneeAmbiguousWarning sha256 actor.email ambiguous
      return (.object (remove "assigned_to" fields), [warning])

/-- `resolve_assignee_in_payload`. -/
def resolveAssigneeInPayload (sha256 : Sha256) (tool : String) (payload : Value)
    (actor : Actor) : Building (Value × List ReceiptWarning) := do
  match payload with
  | .object fields =>
    match lookup "assigned_to" fields with
    | some .null => return (payload, [])
    | some (.string value) =>
      if isSysId value then return (payload, [])
      if eqIgnoreAsciiCase (trim value) "caller" then
        return ← defaultAssigneeFromActor sha256 fields actor
      throw (.fieldRejected [fieldReason "assigned_to" "value_not_in_enum"])
    | some _ => throw (.fieldRejected [fieldReason "assigned_to" "type_mismatch"])
    | none =>
      if endsWith tool "_plan_update" then return (payload, [])
      return ← defaultAssigneeFromActor sha256 fields actor
  | payload => return (payload, [])

end StoryWrite

end SnowAgent
