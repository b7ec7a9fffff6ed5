/-
# Responses as they are sent

A server writes a status line, its headers, an empty line and the body.  The headers say how the
body is framed: `counted` adds the count where nothing is said yet, and `closing` says that the
connection ends behind the body.  This is the writer that the readers of heads and bodies are read
against.
-/
import PinnedFetch.Http.Body

namespace PinnedFetch.Http

/-- What a server sends on one connection. -/
structure Response where
  status : Nat := 200
  headers : List (String × String) := []
  /-- What follows the head, as it is. -/
  body : Bytes := []
  deriving DecidableEq, Repr

namespace Response

/-- A line with its end. -/
def line (text : String) : Bytes := Bytes.ofText text ++ Body.crlf

/-- The line of a header. -/
def headerLine (h : String × String) : Bytes := line (h.1 ++ ": " ++ h.2)

/-- The octets of a response. -/
def octets (r : Response) : Bytes :=
  line s!"HTTP/1.1 {r.status} OK" ++ r.headers.flatMap headerLine ++ line "" ++ r.body

/-- The headers that frame a body, in lower case. -/
def framingNames : List String := ["content-length", "transfer-encoding"]

/-- Whether the headers say how the body is framed. -/
def isFramed (r : Response) : Bool :=
  r.headers.any fun h => framingNames.contains (String.ofList (h.1.toList.map Char.toLower))

/-- A response with one more header. -/
def withHeader (r : Response) (name value : String) : Response :=
  { r with headers := r.headers ++ [(name, value)] }

/-- A response that gives the count of its body, unless it is framed already. -/
def counted (r : Response) : Response :=
  if r.isFramed then r else r.withHeader "Content-Length" (toString r.body.length)

/-- A response that says that it is the last on its connection. -/
def closing (r : Response) : Response := r.withHeader "Connection" "close"

end Response
end PinnedFetch.Http
