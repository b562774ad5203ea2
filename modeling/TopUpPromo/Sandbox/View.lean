import TopUpPromo.Sandbox.World
import TopUpPromo.Api.Response

/-!
# Views of the sandbox's rows

The rows of the store as the sandbox shows them: every column, with `null` for an absent value.
The state view lists the clock, every campaign, the committed participations and vouchers in
id order, and the number of tasks waiting in the queue.

## Main definitions

- `campaignRow`, `participationRow`, `voucherRow`, `stateView`.
-/

namespace TopUpPromo
namespace Sandbox

open Api

def campaignRow (c : Campaign) : Json :=
  .obj [("id", .ofInt c.id), ("name", .str c.name), ("description", .str c.description),
    ("type", .str c.kind), ("status", .str c.status.text),
    ("start_date", shownTime c.startDate), ("end_date", shownTime c.endDate),
    ("max_participants", .ofInt c.maxParticipants.toInt),
    ("current_participants", .ofInt c.currentParticipants.toInt),
    ("remaining_slots", .ofInt c.remainingSlots.toInt),
    ("discount_percentage", decimalJson c.discountPercentage),
    ("min_topup_amount", decimalJson c.minTopup),
    ("max_discount_amount", .optional decimalJson c.maxDiscount),
    ("voucher_validity_days", .ofInt c.voucherValidityDays),
    ("created_at", stampJson c.createdAt)]

def participationRow (p : JoinedParticipation) : Json :=
  .obj [("id", .ofInt p.row.id), ("user_id", .ofInt p.row.userId),
    ("campaign_id", .ofInt p.row.campaignId), ("campaign_name", .str p.campaignName),
    ("status", .str p.row.status.text), ("first_login_at", shownTime p.row.firstLoginAt),
    ("voucher_issued_at", .optional shownTime p.row.voucherIssuedAt),
    ("voucher_used_at", .optional shownTime p.row.voucherUsedAt),
    ("participation_order", .ofInt p.row.order.toInt)]

def voucherRow (v : Voucher) : Json :=
  .obj [("id", .ofInt v.id), ("code", .str v.code), ("participation_id", .ofInt v.participationId),
    ("user_id", .ofInt v.userId), ("type", .str v.kind), ("status", .str v.status.text),
    ("discount_percentage", decimalJson v.discountPercentage),
    ("min_topup_amount", decimalJson v.minTopup),
    ("max_discount_amount", .optional decimalJson v.maxDiscount),
    ("issued_at", shownTime v.issuedAt), ("expires_at", shownTime v.expiresAt),
    ("used_at", .optional shownTime v.usedAt), ("used_amount", .optional decimalJson v.usedAmount),
    ("discount_amount", .optional decimalJson v.discountAmount),
    ("transaction_reference", .optional .str v.reference)]

/-- The state of a sandbox. A database keeps its rows in its answers, so its state shows the
entries of its script that no statement took instead. -/
def stateView (w : World) : Json :=
  match w.storage with
  | .memory b =>
    let s := b.store
    .obj [("now", shownTime w.now), ("campaigns", .arr (s.campaigns.map campaignRow)),
      ("participations", .arr (s.participations.map (participationRow ∘ s.joinParticipation))),
      ("vouchers", .arr (s.vouchers.map (voucherRow ∘ s.joinVoucher []))),
      ("queued_tasks", .ofNat w.tasks.length)]
  | .database db _ =>
    .obj [("now", shownTime w.now), ("queued_tasks", .ofNat w.tasks.length),
      ("unused_script", .ofNat db.queue.length)]

end Sandbox
end TopUpPromo
