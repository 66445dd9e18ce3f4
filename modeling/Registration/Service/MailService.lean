import Registration.Mail
import Registration.Service.Exchange
import Registration.Text.Quoted

/-!
# Sending mails

Mails go to the mail service, which fills in the template, or, where none is set up, into the
journal. Nothing is tried twice.
-/

namespace Registration.Mail

/-! ## Over the mail service -/

/-- The object that a mail is written as. -/
def body (m : Mail) : Json :=
  .object [("cid", .text m.template), ("lang", .text m.language),
    ("to", .array [.text m.recipient]),
    ("variables", .object (m.values.map fun v => (v.1, .text v.2)))]

def request (e : Endpoint) (m : Mail) : Except ServiceError Request :=
  e.request "POST" "/api/v1/mail" none (some m.body)

/-- What a reply to a mail means. -/
def answered (m : Mail) (r : Request) (status : Int) : Exchange Unit :=
  if 300 ≤ status then
    .failing r
      ("mail service rejected " ++ m.template ++ " to " ++ m.recipient ++ ": status " ++
        Text.intText status)
      (.mailUnavailable ("mail service returned status " ++ Text.intText status))
  else .done r ()

/-- A mail without a reply. -/
def unreachable (m : Mail) (r : Request) (detail : String) : Exchange Unit :=
  .failing r ("mail service request for " ++ m.template ++ " failed: " ++ detail)
    (.mailUnavailable ("mail service unreachable: " ++ detail))

def deliver (e : Endpoint) (m : Mail) (reply : Reply) : Exchange Unit :=
  .ofReply (m.request e) reply (fun r status _ => m.answered r status) m.unreachable

/-! ## Into the journal -/

def shownVariables (m : Mail) : String :=
  let sorted := m.values.mergeSort fun a b => decide (a.1 ≤ b.1)
  let shown := sorted.map fun v => Text.quoted v.1 ++ ": " ++ Text.quoted v.2
  "\x7b" ++ String.intercalate ", " shown ++ "\x7d"

def line (m : Mail) : LogLine :=
  ⟨.info, "[NOTIFICATION] Template: " ++ m.template ++ " To: " ++ m.recipient ++ " Lang: " ++
    m.language ++ " Variables: " ++ m.shownVariables⟩

/-- Writes a mail into the journal instead of sending it. -/
def record (m : Mail) : Exchange Unit := ⟨[], [m.line], .ok ()⟩

end Registration.Mail
