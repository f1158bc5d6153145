/-!
How available a user is.
-/

namespace ChatGateway

/-- How available a user is. -/
inductive OnlineStatus where
  | online
  | idle
  | dnd
  | invisible
  | offline
  deriving DecidableEq, Inhabited

namespace OnlineStatus

/-- All statuses, in the order in which they are listed. -/
def all : List OnlineStatus := [online, idle, dnd, invisible, offline]

def text : OnlineStatus → String
  | online => "online"
  | idle => "idle"
  | dnd => "dnd"
  | invisible => "invisible"
  | offline => "offline"

def ofText? (name : String) : Option OnlineStatus :=
  all.find? (·.text == name)

@[simp]
theorem ofText?_text (status : OnlineStatus) : ofText? status.text = some status := by
  cases status <;> decide

end OnlineStatus
end ChatGateway
