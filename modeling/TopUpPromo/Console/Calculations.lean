import TopUpPromo.Console.Input
import TopUpPromo.Json.Writer
import TopUpPromo.Discount
import TopUpPromo.Failure
import TopUpPromo.Events.Task
import TopUpPromo.Time.Text
import TopUpPromo.Voucher.Code

/-!
# Console requests without state

Requests that compute one answer from their fields: the discount of a top-up, the retry delay
of a task, whether a failure may be retried, the failure of a rejected enrollment, the payload
of a first-login task, a batch of voucher codes and the queue server's setup.
-/

namespace TopUpPromo
namespace Console

def discountAnswer (j : Json) : Decode Json := do
  let amount ← reqField j "amount" decimalOf
  let pct ← reqField j "percentage" decimalOf
  let cap ← optField j "max_discount" decimalOf
  let r := Discount.compute amount pct cap
  pure (.obj [("discount", .str r.discount.toText), ("final", .str r.final.toText),
    ("discount_fixed", .str (r.discount.toFixed 2)), ("final_fixed", .str (r.final.toFixed 2))])

def retryDelayAnswer (j : Json) : Decode Json := do
  let n ← reqField j "n" (fun k => intOf k 64)
  let d := Events.retryDelay n
  pure (.obj [("nanoseconds", .ofNat d), ("text", .str (durationText d))])

def namedCause? (name : String) : Option Cause :=
  if name = "below_minimum_topup" then some .belowMinimumTopup
  else Cause.reportOrder.find? (fun c => c.kind = name ∧ c ≠ .belowMinimumTopup)

def retryableAnswer (j : Json) : Decode Json := do
  let name ← fieldOr j "error" stringOf ""
  let wrap ← fieldOr j "wrap" stringOf ""
  let base : Option Failure ← match name with
    | "nil" => pure none
    | "other" => pure (some (.plain "other"))
    | "below_minimum" => do
      let m ← fieldOr j "minimum" decimalOf 0
      pure (some (.belowMinimum m))
    | _ =>
      match namedCause? name with
      | some c => pure (some (.cause c))
      | none => .error ("unknown error name " ++ name)
  let wrapped : Failure → Failure ← match wrap with
    | "" | "none" => pure id
    | "wrap" => pure (.within "outer")
    | "text" => pure (·.quoted "outer")
    | w => .error ("unknown wrap " ++ w)
  let f := base.map wrapped
  pure (.obj [("retryable", .bool ((f.map Failure.retryable).getD false)),
    ("message", Json.optional (fun f : Failure => .str f.text) f)])

def reasonAnswer (j : Json) : Decode Json := do
  let reason ← reqField j "reason" stringOf
  let c : Option Cause := match reason with
    | "already_participated" => some .alreadyParticipated
    | "no_active_campaign" => some .noActiveCampaign
    | "campaign_full" => some .campaignFull
    | _ => none
  pure (.obj [("err", Json.optional (fun c : Cause => .str c.text) c)])

def firstLoginTaskAnswer (j : Json) : Decode Json := do
  let eventId ← fieldOr j "event_id" stringOf ""
  let userId ← fieldOr j "user_id" (fun k => intOf k 64) 0
  let occurred ← fieldOr j "occurred_at" timeOf (Instant.ofCivil ⟨1, 1, 1, 0, 0, 0⟩ 0 0)
  match (Events.FirstLogin.payload ⟨eventId, userId, occurred⟩) with
  | .ok p => pure (.obj [("type", .str Events.firstLoginType), ("payload", .str p)])
  | .error e => pure (.obj [("error", .str "error"), ("message", .str (Events.payloadFailureText e))])

def codeBatchAnswer (j : Json) : Decode Json := do
  let pref ← fieldOr j "prefix" stringOf ""
  let count ← boundedInt j "count" 1 100 1
  let codes := (List.range count.toNat).map fun i => Voucher.numberedCode pref (i + 1)
  pure (.obj [("count", .ofInt count),
    ("all_match", .bool (codes.all (Voucher.IsCodeOf pref ·))),
    ("length", .ofNat ((codes.head?.map String.utf8ByteSize).getD 0))])

def queueServerAnswer (j : Json) : Decode Json := do
  let _ ← boundedInt j "concurrency" 0 64 1
  pure (.obj [("server", .str "*asynq.Server"), ("nil", .bool false)])

end Console
end TopUpPromo
