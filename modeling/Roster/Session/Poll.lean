import Roster.Session.Presence
import Roster.Session.Subscription

/-! Polling the parked contacts. The server does not push their status, so a poll asks for each in
turn, and re-sends the authorization request of a contact the first time it is seen online. -/

namespace Roster.Session

/-- Re-sends the request of a contact, if somebody does that. -/
def reRequest (s : Session) (report : PollReport) (contact : Contact) : Session × PollReport :=
  if !s.reRequests then (s, report)
  else
    (s.record (.reRequested contact.identifier s.settings.reRequestReason),
      if s.reRequestsFail then { report with failed := report.failed + 1 }
      else { report with reRequested := report.reRequested + 1 })

/-- Deals with the status of one contact. It may have left the group since it was asked for. -/
def pollContact (s : Session) (group : Group) (report : PollReport) (identifier : String)
    (status : Status) : Session × PollReport :=
  if (s.list.parentGroup? identifier).map Group.name ≠ some group.name then (s, report)
  else
    let (s, changed) := s.applyStatus identifier status (some group)
    let report := if changed then { report with changed := report.changed + 1 } else report
    if !status.isOnline || decide (identifier ∈ s.seen) then (s, report)
    else
      let s := { s with seen := s.seen ++ [identifier] }
      match s.list.contact? identifier with
      | none => (s, report)
      | some contact => s.reRequest report contact

/-- Goes on with the contacts that are left. -/
def pollRest (s : Session) (group : Group) (report : PollReport) :
    List String → Session × (PollReport ⊕ SuspendedPoll)
  | [] => (s, .inl report)
  | identifier :: rest =>
    let report := { report with checked := report.checked + 1 }
    match s.ask identifier with
    | (s, .inr wait) => (s, .inr ⟨group, identifier, rest, report, wait⟩)
    | (s, .inl mask) =>
      let (s, report) := s.pollContact group report identifier mask.status
      s.pollRest group report rest

/-- Polls everybody who lies in the awaiting group now. -/
def poll (s : Session) : Session × (PollReport ⊕ SuspendedPoll) :=
  match s.awaitingGroup? with
  | none => (s, .inl {})
  | some group => s.pollRest group {} ((s.list.contactsIn group.name).map Contact.identifier)

def resumePoll (s : Session) (p : SuspendedPoll) (mask : Mask) :
    Session × (PollReport ⊕ SuspendedPoll) :=
  let (s, report) := s.pollContact p.group p.report p.current mask.status
  s.pollRest p.group report p.rest

end Roster.Session
