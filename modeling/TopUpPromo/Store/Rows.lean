import TopUpPromo.Database.Scan
import TopUpPromo.Store.Basic

/-!
# The rows of the promotion tables

How the columns of the campaign, participation and voucher tables fill the records of the
promotion core. A column named after no field of the record is refused; a field whose column is
not in the answer keeps its empty value (zero, the empty text, the zero instant, absent).
Participations are read together with their campaign's name and end, and vouchers together
with their owner.

## Main definitions

- `campaignShape`, `participationShape`, `voucherShape`.
-/

namespace TopUpPromo
namespace Relational

open Database

def field {α β : Type} (f : Cell → Except String β) (put : β → α) (v : Cell) :
    Option (Except String α) :=
  some (put <$> f v)

def int64 : Cell → Except String Int := Cell.toInt "int64" 64

def int32 (v : Cell) : Except String Int32 := Int32.ofInt <$> Cell.toInt "int32" 32 v

def emptyCampaign : Campaign :=
  { id := 0, name := "", description := "", kind := "", status := .ofText "",
    startDate := Instant.zero, endDate := Instant.zero, maxParticipants := 0,
    currentParticipants := 0, discountPercentage := 0, minTopup := 0, maxDiscount := none,
    voucherValidityDays := 0, createdAt := .clock Instant.zero }

/-- The columns of the campaign table. -/
def campaignShape : RowShape Campaign where
  typeName := "model.Campaign"
  empty := emptyCampaign
  set c name v := match name with
    | "id" => field int64 (fun n => { c with id := n }) v
    | "name" => field Cell.toText (fun s => { c with name := s }) v
    | "description" => field Cell.toText (fun s => { c with description := s }) v
    | "type" => field (Cell.toNamed "*model.CampaignType") (fun s => { c with kind := s }) v
    | "status" =>
      field (Cell.toNamed "*model.CampaignStatus") (fun s => { c with status := .ofText s }) v
    | "start_date" => field Cell.toTime (fun t => { c with startDate := t }) v
    | "end_date" => field Cell.toTime (fun t => { c with endDate := t }) v
    | "max_participants" => field int32 (fun n => { c with maxParticipants := n }) v
    | "current_participants" => field int32 (fun n => { c with currentParticipants := n }) v
    | "discount_percentage" =>
      field Cell.toDecimal (fun d => { c with discountPercentage := d }) v
    | "min_topup_amount" => field Cell.toDecimal (fun d => { c with minTopup := d }) v
    | "max_discount_amount" =>
      field (Cell.optional Cell.toDecimal) (fun d => { c with maxDiscount := d }) v
    | "voucher_validity_days" =>
      field (Cell.toInt "int" 64) (fun n => { c with voucherValidityDays := n }) v
    | "created_at" => field Cell.toTime (fun t => { c with createdAt := .clock t }) v
    | "updated_at" => field Cell.toTime (fun _ => c) v
    | _ => none

def emptyParticipation : JoinedParticipation :=
  ⟨⟨0, 0, 0, .ofText "", Instant.zero, none, none, 0⟩, "", none⟩

/-- The columns of the participation table, with the campaign's name and end. -/
def participationShape : RowShape JoinedParticipation where
  typeName := "model.Participation"
  empty := emptyParticipation
  set p name v :=
    let row (f : Participation → Participation) : JoinedParticipation := { p with row := f p.row }
    match name with
    | "id" => field int64 (fun n => row ({ · with id := n })) v
    | "user_id" => field int64 (fun n => row ({ · with userId := n })) v
    | "campaign_id" => field int64 (fun n => row ({ · with campaignId := n })) v
    | "status" =>
      field (Cell.toNamed "*model.ParticipationStatus") (fun s => row ({ · with status := .ofText s })) v
    | "first_login_at" => field Cell.toTime (fun t => row ({ · with firstLoginAt := t })) v
    | "voucher_issued_at" =>
      field (Cell.optional Cell.toTime) (fun t => row ({ · with voucherIssuedAt := t })) v
    | "voucher_used_at" =>
      field (Cell.optional Cell.toTime) (fun t => row ({ · with voucherUsedAt := t })) v
    | "participation_order" => field int32 (fun n => row ({ · with order := n })) v
    | "created_at" => field Cell.toTime (fun _ => p) v
    | "updated_at" => field Cell.toTime (fun _ => p) v
    | "campaign_name" => field Cell.toText (fun s => { p with campaignName := s }) v
    | "campaign_end_date" => field Cell.toTime (fun t => { p with campaignEnd := some t }) v
    | _ => none

def emptyVoucher : Voucher :=
  { id := 0, code := "", participationId := 0, kind := "", status := .ofText "",
    discountPercentage := 0, minTopup := 0, maxDiscount := none, issuedAt := Instant.zero,
    expiresAt := Instant.zero, usedAt := none, usedAmount := none, discountAmount := none,
    reference := none, userId := 0 }

/-- The columns of the voucher table, with the owner of the voucher's participation. -/
def voucherShape : RowShape Voucher where
  typeName := "model.Voucher"
  empty := emptyVoucher
  set w name v := match name with
    | "id" => field int64 (fun n => { w with id := n }) v
    | "code" => field Cell.toText (fun s => { w with code := s }) v
    | "participation_id" => field int64 (fun n => { w with participationId := n }) v
    | "type" => field (Cell.toNamed "*model.VoucherType") (fun s => { w with kind := s }) v
    | "status" =>
      field (Cell.toNamed "*model.VoucherStatus") (fun s => { w with status := .ofText s }) v
    | "discount_percentage" =>
      field Cell.toDecimal (fun d => { w with discountPercentage := d }) v
    | "min_topup_amount" => field Cell.toDecimal (fun d => { w with minTopup := d }) v
    | "max_discount_amount" =>
      field (Cell.optional Cell.toDecimal) (fun d => { w with maxDiscount := d }) v
    | "issued_at" => field Cell.toTime (fun t => { w with issuedAt := t }) v
    | "expires_at" => field Cell.toTime (fun t => { w with expiresAt := t }) v
    | "used_at" => field (Cell.optional Cell.toTime) (fun t => { w with usedAt := t }) v
    | "used_amount" =>
      field (Cell.optional Cell.toDecimal) (fun d => { w with usedAmount := d }) v
    | "discount_amount" =>
      field (Cell.optional Cell.toDecimal) (fun d => { w with discountAmount := d }) v
    | "transaction_reference" =>
      field (Cell.optional Cell.toText) (fun s => { w with reference := s }) v
    | "created_at" => field Cell.toTime (fun _ => w) v
    | "updated_at" => field Cell.toTime (fun _ => w) v
    | "user_id" => field int64 (fun n => { w with userId := n }) v
    | _ => none

end Relational
end TopUpPromo
