import TopUpPromo.Store.Relational

/-!
# The schema of the promotion tables

The statements that create the campaign, participation and voucher tables and their indexes;
each can run again on a database that already has them. Connecting to the database checks the
connection twice (once when the pool opens, once more on its own) and then, when asked,
applies the schema statement by statement, stopping at the first that fails.

## Main definitions

- `schema`, `migrate`, `connect`.
-/

namespace TopUpPromo
namespace Relational

open Database

/-- The schema statements, in the order they are applied. -/
def schema : List String :=
  ["CREATE TABLE IF NOT EXISTS campaigns ( id BIGSERIAL PRIMARY KEY, name VARCHAR(255) NOT NULL, " ++
    "description TEXT, type VARCHAR(50) NOT NULL DEFAULT 'first_login_discount', status " ++
    "VARCHAR(20) NOT NULL DEFAULT 'active', start_date TIMESTAMPTZ NOT NULL, end_date " ++
    "TIMESTAMPTZ NOT NULL, max_participants INTEGER NOT NULL DEFAULT 100 CHECK " ++
    "(max_participants BETWEEN 1 AND 10000), current_participants INTEGER NOT NULL DEFAULT 0, " ++
    "discount_percentage NUMERIC(5,2) NOT NULL DEFAULT 30 CHECK (discount_percentage BETWEEN 0 " ++
    "AND 100), min_topup_amount NUMERIC(10,2) NOT NULL DEFAULT 0, max_discount_amount " ++
    "NUMERIC(10,2), voucher_validity_days INTEGER NOT NULL DEFAULT 30 CHECK " ++
    "(voucher_validity_days BETWEEN 1 AND 365), created_at TIMESTAMPTZ NOT NULL DEFAULT now(), " ++
    "updated_at TIMESTAMPTZ NOT NULL DEFAULT now(), CONSTRAINT " ++
    "campaigns_participants_within_capacity CHECK (current_participants <= max_participants) )",
   "CREATE INDEX IF NOT EXISTS idx_campaigns_status ON campaigns (status)",
   "CREATE INDEX IF NOT EXISTS idx_campaigns_type_status_created ON campaigns (type, status, " ++
    "created_at DESC)",
   "CREATE TABLE IF NOT EXISTS participations ( id BIGSERIAL PRIMARY KEY, user_id BIGINT NOT " ++
    "NULL, campaign_id BIGINT NOT NULL REFERENCES campaigns (id), status VARCHAR(20) NOT NULL " ++
    "DEFAULT 'eligible', first_login_at TIMESTAMPTZ NOT NULL, voucher_issued_at TIMESTAMPTZ, " ++
    "voucher_used_at TIMESTAMPTZ, participation_order INTEGER NOT NULL CHECK " ++
    "(participation_order > 0), created_at TIMESTAMPTZ NOT NULL DEFAULT now(), updated_at " ++
    "TIMESTAMPTZ NOT NULL DEFAULT now() )",
   "CREATE UNIQUE INDEX IF NOT EXISTS idx_participations_user_campaign ON participations " ++
    "(user_id, campaign_id)",
   "CREATE UNIQUE INDEX IF NOT EXISTS idx_participations_campaign_order ON participations " ++
    "(campaign_id, participation_order)",
   "CREATE INDEX IF NOT EXISTS idx_participations_status ON participations (status)",
   "CREATE TABLE IF NOT EXISTS vouchers ( id BIGSERIAL PRIMARY KEY, code VARCHAR(50) NOT NULL, " ++
    "participation_id BIGINT NOT NULL REFERENCES participations (id), type VARCHAR(50) NOT " ++
    "NULL DEFAULT 'mobile_topup_discount', status VARCHAR(20) NOT NULL DEFAULT 'active', " ++
    "discount_percentage NUMERIC(5,2) NOT NULL, min_topup_amount NUMERIC(10,2) NOT NULL " ++
    "DEFAULT 0, max_discount_amount NUMERIC(10,2), issued_at TIMESTAMPTZ NOT NULL, expires_at " ++
    "TIMESTAMPTZ NOT NULL, used_at TIMESTAMPTZ, used_amount NUMERIC(10,2), discount_amount " ++
    "NUMERIC(10,2), transaction_reference VARCHAR(255), created_at TIMESTAMPTZ NOT NULL " ++
    "DEFAULT now(), updated_at TIMESTAMPTZ NOT NULL DEFAULT now() )",
   "CREATE UNIQUE INDEX IF NOT EXISTS idx_vouchers_code ON vouchers (code)",
   "CREATE INDEX IF NOT EXISTS idx_vouchers_participation ON vouchers (participation_id)",
   "CREATE INDEX IF NOT EXISTS idx_vouchers_status_expiry ON vouchers (status, expires_at)"]

def applyFrom (ctx : Ctx) : Nat → List String → Connection (Except Failure Unit)
  | _, [] => pure (.ok ())
  | i, s :: rest => do
    match ← guarded ctx (exec s none) with
    | .error f => return .error (.within ("failed to apply schema statement " ++ toString i) f)
    | .ok _ => applyFrom ctx (i + 1) rest

/-- Applies the schema. -/
def migrate (ctx : Ctx) : Connection (Except Failure Unit) := applyFrom ctx 0 schema

/-- Connects to the database: the pool's check, a check of its own, and the schema when
`autoMigrate` holds. -/
def connect (ctx : Ctx) (autoMigrate : Bool) : Connection (Except Failure Unit) := do
  match ← ping ctx with
  | .error f => return .error (.within "failed to connect to PostgreSQL" f)
  | .ok () =>
    match ← ping ctx with
    | .error f => return .error (.within "failed to ping PostgreSQL" f)
    | .ok () => if autoMigrate then migrate ctx else return .ok ()

end Relational
end TopUpPromo
