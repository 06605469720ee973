import ShellGateway.Sftp.Server

/-!
# A session, request by request

The files belong to the machine and not to the session: between two requests anybody
may have changed them. A session is therefore given by its requests along with the
files that each of them finds, and `Server.exchanges` is what becomes of it. Nothing
is assumed of the files, so that every request may meet with whatever the files can
answer.
-/

namespace ShellGateway.Sftp

open Files

/-- A request, with the session and the files as they were when it came. -/
structure Exchange where
  server : Server
  files : FileSystem
  request : Request

namespace Exchange

/-- What follows from the request. -/
def outcome (x : Exchange) : Outcome :=
  x.server.handle x.files x.request

/-- The answer. -/
def reply (x : Exchange) : Reply :=
  x.outcome.reply

end Exchange

namespace Server

/-- The session after requests. -/
def after (s : Server) : List (FileSystem × Request) → Server
  | [] => s
  | (files, r) :: rest => (s.handle files r).server.after rest

/-- Requests with what follows from each of them. -/
def exchanges (s : Server) : List (FileSystem × Request) → List Exchange
  | [] => []
  | (files, r) :: rest => ⟨s, files, r⟩ :: (s.handle files r).server.exchanges rest

end Server

end ShellGateway.Sftp
