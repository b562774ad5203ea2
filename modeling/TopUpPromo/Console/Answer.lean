import TopUpPromo.Console.Calculations
import TopUpPromo.Console.Session
import TopUpPromo.Console.Deployment
import TopUpPromo.Console.Admin
import TopUpPromo.Console.Commands
import TopUpPromo.Console.Configuration
import TopUpPromo.Console.Logs
import TopUpPromo.Json.Reader

/-!
# The console

The console answers one request per line. A request is a JSON object whose `op` names what to
do; the answer is one JSON object. A line that is no JSON object, names no known `op` or has a
field that cannot be read is answered `{"error":"bad_input","message":…}`.

## Main definitions

- `Console.answer`: the answer to a request.
- `Console.answerLine`: the same on text.
-/

namespace TopUpPromo
namespace Console

/-- The answer to a request. -/
def answer (j : Json) : Json :=
  let run (f : Json → Decode Json) : Json :=
    match f j with
    | .ok a => a
    | .error m => badInput m
  match j with
  | .obj _ =>
    match j.field? "op" with
    | some (.str op _) =>
      match op with
      | "" => badInput "missing op"
      | "discount" => run discountAnswer
      | "retry_delay" => run retryDelayAnswer
      | "is_retryable" => run retryableAnswer
      | "reason_err" => run reasonAnswer
      | "first_login_task" => run firstLoginTaskAnswer
      | "random_code" => run codeBatchAnswer
      | "events_server" => run queueServerAnswer
      | "seed_options" => run seedOptionsAnswer
      | "session" => run sessionAnswer
      | "config" => run configAnswer
      | "logger" => run loggerAnswer
      | "database" => run databaseAnswer
      | "app" => run appAnswer
      | "admin" => run adminAnswer
      | "seeder" => run seederAnswer
      | "worker" => run workerAnswer
      | "server" => run serverAnswer
      | "perf" => run perfAnswer
      | _ => badInput ("unknown op " ++ op)
    | _ => badInput "missing op"
  | _ => badInput "input is not a JSON object"

/-- The answer to one line of text. -/
def answerLine (line : String) : String :=
  match Json.parse line with
  | .ok j => (answer j).render
  | .error _ => (badInput "input is not a JSON object").render

end Console
end TopUpPromo
