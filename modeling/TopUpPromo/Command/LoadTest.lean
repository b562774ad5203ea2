import TopUpPromo.Command.Basic
import TopUpPromo.Decimal.Text

/-!
# The load-test client

The load-test client logs `-users` users in for the first time (ids counting up from
`-first-user`) against the promotion service at `-url`, from `-workers` workers sharing a rate
limiter of `-rps` requests a second, and then reports what it saw. It prints a banner with its
settings, then the results, then a consistency check, which needs the admissions to have
landed in exactly one campaign; otherwise it stops with code 1.

The rate limiter starts with `max 1 (rps / workers)` tokens, so that many requests go at once,
and then lets one go every `1 / rps` seconds. A rate of zero or below never adds a token: the
requests beyond the first tokens wait for good. Without workers nothing is sent. A division by
zero workers, and a negative number of users, are runtime faults that end the client with code
2 right after the banner.

The site has no network, so every request fails at once: each counts as an error, and nothing is
admitted.

## Main definitions

- `loadTestFlags`, `RateSchedule`, `schedule`, `loadTest`.
-/

namespace TopUpPromo
namespace Command

open Deployment

/-- The client's flags. -/
def loadTestFlags : List FlagSpec :=
  [⟨"url", .text⟩, ⟨"campaign", .int⟩, ⟨"users", .int⟩, ⟨"first-user", .int⟩, ⟨"rps", .int⟩,
   ⟨"workers", .int⟩, ⟨"threshold", .int⟩]

def rule : String := "=========================================="

/-- How the requests of a run go out. -/
inductive RateSchedule where
  /-- `sent` requests go out, the last one `lastMs` milliseconds after the start. -/
  | sends (sent : Nat) (lastMs : Nat)
  /-- The workers wait for good. -/
  | stalls
  deriving DecidableEq, Repr

/-- The schedule of `users` requests from `workers` workers under a limiter of `rps` requests a
second with burst `burst`. -/
def schedule (users workers rps burst : Int) : RateSchedule :=
  if workers ≤ 0 ∨ users ≤ 0 then .sends 0 0
  else if rps ≤ 0 then (if users ≤ burst then .sends users.toNat 0 else .stalls)
  else
    let waiting := users - burst
    .sends users.toNat (if waiting ≤ 0 then 0 else (waiting * 1000 / rps).toNat)

def say (s : String) : SiteM Unit := Site.print .stdout s

def runtimeFault (message : String) : SiteM Ending := do
  Site.print .stderr ("panic: runtime error: " ++ message)
  Site.print .stderr ""
  Site.print .stderr "goroutine 1 [running]:"
  return .exit 2

def report (sent ms : Nat) : SiteM Ending := do
  say rule
  say "results"
  say rule
  say ("Duration           : " ++ (Decimal.mk ms (-3)).toFixed 2 ++ "s")
  say ("Total requests     : " ++ toString sent)
  say "Admitted           : 0"
  say "  with voucher     : 0"
  say "Rejected           : 0"
  say ("Errors             : " ++ toString sent)
  say "Actual RPS         : 0.00"
  say rule
  say "data consistency"
  say rule
  say "cannot verify: admissions landed in 0 campaigns"
  return .exit 1

/-- The client on a command line. -/
def loadTest (args : List String) : SiteM Ending :=
  withFlags "perf-client" loadTestFlags args fun flags => do
    let url := flags.text "url" "http://localhost:8080"
    let users := flags.int "users" 150
    let firstUser := flags.int "first-user" 1
    let rps := flags.int "rps" 700
    let workers := flags.int "workers" 50
    say rule
    say "first-login enrollment load test"
    say rule
    say ("Target     : " ++ url)
    say ("Users      : " ++ toString users ++ " (from id " ++ toString firstUser ++ ")")
    say ("RPS        : " ++ toString rps)
    say ("Workers    : " ++ toString workers)
    say rule
    if workers = 0 then return ← runtimeFault "integer divide by zero"
    let burst := max 1 (rps.tdiv workers)
    if users < 0 then return ← runtimeFault "makeslice: cap out of range"
    match schedule users workers rps burst with
    | .stalls => return .running
    | .sends sent ms =>
      modify fun s => { s with clock := s.clock + ms }
      report sent ms

end Command
end TopUpPromo
