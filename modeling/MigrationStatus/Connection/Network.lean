import MigrationStatus.Connection.Error
/-!
A network in which a single server listens, behind a socket.
-/

namespace MigrationStatus.Connection

/-- Where a server listens: the folder of its socket, and the port. -/
structure Place where
  folder : String
  port : UInt16
  deriving DecidableEq, Repr

namespace Place

/-- Whether a route leads to the place. -/
def isEndOf (place : Place) (route : Route) : Bool :=
  route.socket == some place.folder && route.port == place.port

/-- What comes of an attempt to connect where no other server listens than one that has this answer.
-/
def answerTo (place : Place) (answer : Except AttemptError Unit) (url : String) :
    Except AttemptError Unit :=
  match Route.parse url with
  | .error error => .error (.route error)
  | .ok route =>
    if place.isEndOf route then answer
    else .error (if route.socket.isSome then .noSocket else .timedOut)

end Place

end MigrationStatus.Connection
