import Colloquy.Store.Keeping

/-!
# Filters of listings of sessions

A listing of the sessions of a project covers all of them, those of one space, or those of none
(`SessionFilter`). Each session has one filter that is for it and for those of the same space
(`Session.ownFilter`), and what a session becomes when one is connected to a space or a space is
removed may be another (`Session.connected`, `Session.freed`).
-/

namespace Colloquy

namespace Session

/-- The filter for the sessions of the same space, or for those of none. -/
def ownFilter (a : Session) : SessionFilter :=
  match a.spaceId with
  | some id => .inSpace id
  | none => .notConnected

/-- A session after the one with the given id has been connected to a space. -/
def connected (now : Instant) (id spaceId : Uuid) (a : Session) : Session :=
  if a.id = id then { a with spaceId := some spaceId, updatedAt := now.recounted } else a

/-- A session after a space has been removed. -/
def freed (spaceId : Uuid) (a : Session) : Session :=
  if a.spaceId = some spaceId then { a with spaceId := none } else a

/-- The sessions of a project that a filter lets through, newest first or oldest first. -/
def listed (sessions : List Session) (projectId : Uuid) (filter : SessionFilter)
    (timeDesc : Option Bool) : List Session :=
  let ascending := KeysetQuery.sorted sessions
  (if timeDesc.getD true then ascending.reverse else ascending).filter fun a =>
    a.projectId == projectId && Scope.lets filter a

end Session

namespace Store

/-- The ids of the stored spaces. -/
def spaceIds (s : Store) : List Uuid :=
  s.spaces.filterMap fun r => (r.id.uuid? 0).toOption

/-- The filters for the sessions of no space and for those of each stored space. -/
def ownFilters (s : Store) : List SessionFilter :=
  .notConnected :: s.spaceIds.map .inSpace

end Store

end Colloquy
