import Roster.Session.Presence
import Roster.Session.Directory

/-! Logging in and out. At login the session is wired up and polling starts; at logout nothing
more will be heard of anybody, so everybody goes offline. -/

namespace Roster.Session

/-- The first moment that the clock cannot hold: it counts seconds in a word with a sign, and reads
zero at the start of the session. -/
def clockCapacity : Nat := 1000 * Word.half

/-- Starts polling, in place of any polling before. Without a period there is nothing to wait for,
and a moment beyond what the clock can hold cannot be waited for; either ends the task at once. -/
def startPolling (s : Session) : Session :=
  let due := s.now + 1000 * s.settings.pollInitialDelaySecs
  let runs := s.settings.pollIntervalSecs > 0 ∧ due < clockCapacity
  { s with poller := if runs then some ⟨due, none⟩ else none }

def stopPolling (s : Session) : Session := { s with poller := none }

def register (s : Session) : Session :=
  let s := { s with server := { s.server with attached := true } }.loadList
  if s.settings.mode.hasExtendedAuthorization && s.reRequests then s.startPolling else s

/-- Our own status becomes unknown. -/
def resetStatus (s : Session) : Session :=
  let reset := { s with own := { s.own with mask := .unknown } }
  if s.own.mask.isUnknown then reset else reset.announce (.ownStatus ⟨s.status, .offline⟩)

/-- Sends the contacts of a group offline. -/
def silenceGroup (s : Session) (group : Group) : Session :=
  ((s.list.contactsIn group.name).filter Contact.isOnline).foldl
    (fun s c => (s.applyStatus c.identifier .offline (some group)).1) s

/-- Sends everybody offline, group by group. In a tree where a group lies inside itself the call goes
round without end, over contacts that it has already sent offline. That nobody is changed then stands
for a call that never returns. -/
def silenceContacts (s : Session) : Session :=
  ((s.list.outline?).getD []).foldl silenceGroup s

def disconnect (s : Session) : Session := s.stopPolling.resetStatus.silenceContacts

def registrationChanged (s : Session) (new : Registration) : Session :=
  if new = .registered then s.register
  else if new.isDisconnect then s.disconnect
  else s

end Roster.Session
