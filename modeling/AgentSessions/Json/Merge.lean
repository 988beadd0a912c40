import AgentSessions.Json.Value

/-!
# Merging JSON values

`merge target source` puts `source` over `target`: objects are merged member by member, a `null`
leaves the member of the target as it is, and anything else replaces what was there.
-/

set_option autoImplicit false

namespace AgentSessions.Json

mutual

/-- The value `target` with `source` put over it. -/
def merge (target : Value) : Value → Value
  | .object members =>
      match target with
      | .object under => .object (mergeMembers under members)
      | _ => .object members
  | other => other

def mergeMembers (under : List (String × Value)) :
    List (String × Value) → List (String × Value)
  | [] => under
  | (key, value) :: rest =>
      match value, Entries.get? key under with
      | .null, _ => mergeMembers under rest
      | value, some old => mergeMembers (Entries.insert key (merge old value) under) rest
      | value, none => mergeMembers (Entries.insert key value under) rest

end

end AgentSessions.Json
