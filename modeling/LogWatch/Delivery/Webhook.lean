import LogWatch.Fault
import LogWatch.Report.Basic

/-!
# Reports for a server

A report is posted to a server as JSON. The server has taken it when it answers with a status from
200 to 299.
-/

namespace LogWatch

/-- The version of the program. -/
def programVersion : String := "0.1.0"

namespace Webhook

/-- What a server is asked to take. -/
structure Request where
  /-- The first line of the request. -/
  line : String
  /-- The type of the body. -/
  contentType : String
  /-- The name under which the program introduces itself. -/
  agent : String
  /-- The body. -/
  body : String

/-- The request for a report, to a path of the server. -/
def request (path : String) (r : Report) : Request where
  line := s!"POST {path} HTTP/1.1"
  contentType := "application/json"
  agent := s!"logwarden/{programVersion}"
  body := r.jsonText

/-- What the status of an answer says about the report. -/
def judge (status : UInt16) : Except DeliveryFault Unit :=
  if 200 ≤ status ∧ status < 300 then .ok () else .error (.rejected status)

end Webhook

end LogWatch
