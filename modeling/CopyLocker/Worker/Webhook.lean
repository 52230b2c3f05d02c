import CopyLocker.Worker.RevokedLicense

/-!
# Webhooks of the payment providers

What `webhook.rs` makes of the JSON body of a provider's webhook: the event types of each provider
are mapped to the kinds of normalised billing events, with the identifiers, times and periods that
the body carries under the provider's own names. A body that lacks a required field is an error, an
event type without a meaning for subscriptions is ignored.
-/

namespace CopyLocker.Worker

open Foundation.Saturating

/-- A JSON value. A number that is not an integer is not read by any function. -/
inductive Json
  | null
  | bool (b : Bool)
  | integer (n : ℤ)
  | float
  | string (s : String)
  | array (items : List Json)
  | object (fields : List (String × Json))

namespace Json

/-- The member of an object. -/
def get (key : String) : Json → Option Json
  | object fields => fields.lookup key
  | _ => none

/-- The value at the end of a path of keys. -/
def valueAt (value : Json) (path : List String) : Option Json :=
  path.foldlM (fun current key => current.get key) value

/-- A string. -/
def asStr : Json → Option String
  | string s => some s
  | _ => none

/-- A truth value. -/
def asBool : Json → Option Bool
  | bool b => some b
  | _ => none

/-- An integer of 64 bits. -/
def asI64 : Json → Option ℤ
  | integer n => if signedMin 64 ≤ n ∧ n ≤ signedMax 64 then some n else none
  | _ => none

/-- The string at a path. -/
def stringAt (value : Json) (path : List String) : Option String := (value.valueAt path).bind asStr

/-- The truth value at a path. -/
def boolAt (value : Json) (path : List String) : Option Bool := (value.valueAt path).bind asBool

end Json

/-! ### Times -/

/-- The value of decimal digits. -/
def parseDigits (digits : List Char) : Option ℤ :=
  digits.foldlM
    (fun value c => if c.isDigit then some (10 * value + (c.toNat - 48 : ℕ)) else none) 0

/-- `str::parse::<i64>`. -/
def parseI64 (text : String) : Option ℤ :=
  let value := match text.toList with
    | [] | ['+'] | ['-'] => none
    | '+' :: digits => parseDigits digits
    | '-' :: digits => (parseDigits digits).map Neg.neg
    | digits => parseDigits digits
  value.filter fun n => decide (signedMin 64 ≤ n) && decide (n ≤ signedMax 64)

/-- The number in a range of bytes, if they are decimal digits. -/
def parseDecimal (bytes : Bytes) (start length : ℕ) : Option ℤ :=
  ((bytes.drop start).take length).foldlM (fun value byte =>
    if 48 ≤ byte ∧ byte ≤ 57 then some (10 * value + (byte.toNat - 48 : ℕ)) else none) 0

def isLeapYear (year : ℤ) : Bool :=
  year % 4 == 0 && (year % 100 != 0 || year % 400 == 0)

/-- The length of a month. -/
def daysInMonth (year month : ℤ) : ℤ :=
  if month = 2 then if isLeapYear year then 29 else 28
  else if month = 4 ∨ month = 6 ∨ month = 9 ∨ month = 11 then 30
  else 31

/-- Days since the epoch of a date of the proleptic Gregorian calendar. -/
def daysFromCivil (year month day : ℤ) : ℤ :=
  let adjustedYear := year - if month ≤ 2 then 1 else 0
  let era := (if 0 ≤ adjustedYear then adjustedYear else adjustedYear - 399).tdiv 400
  let yearOfEra := adjustedYear - era * 400
  let shiftedMonth := month + if 2 < month then -3 else 9
  let dayOfYear := (153 * shiftedMonth + 2).tdiv 5 + (day - 1)
  let dayOfEra := yearOfEra * 365 + yearOfEra.tdiv 4 - yearOfEra.tdiv 100 + dayOfYear
  era * 146097 + dayOfEra - 719468

/-- A time such as `2026-01-31T12:00:00Z`; fractions of a second are ignored. -/
def parseRfc3339 (text : String) : Option ℤ :=
  let bytes := Foundation.utf8 text
  if bytes.length < 20 ∨ bytes[4]? ≠ some 45 ∨ bytes[7]? ≠ some 45 ∨ bytes[10]? ≠ some 84 ∨
      bytes[13]? ≠ some 58 ∨ bytes[16]? ≠ some 58 ∨ bytes.getLast? ≠ some 90 then none
  else do
    let year ← parseDecimal bytes 0 4
    let month ← parseDecimal bytes 5 2
    let day ← parseDecimal bytes 8 2
    let hour ← parseDecimal bytes 11 2
    let minute ← parseDecimal bytes 14 2
    let second ← parseDecimal bytes 17 2
    if month < 1 ∨ 12 < month ∨ day = 0 ∨ daysInMonth year month < day ∨ 23 < hour ∨
        59 < minute ∨ 59 < second then none
    else some (daysFromCivil year month day * 86400 + hour * 3600 + minute * 60 + second)

/-- A time as a number, as a number in a text, or as a date. -/
def Json.timestampAt (value : Json) (path : List String) : Option ℤ :=
  (value.valueAt path).bind fun v =>
    v.asI64.or ((v.asStr.bind parseI64).or (v.asStr.bind parseRfc3339))

/-! ### Fields -/

/-- The value of a hexadecimal digit. -/
def hexNibble (c : Char) : Option ℕ :=
  if '0' ≤ c ∧ c ≤ '9' then some (c.toNat - 48)
  else if 'a' ≤ c ∧ c ≤ 'f' then some (c.toNat - 87)
  else if 'A' ≤ c ∧ c ≤ 'F' then some (c.toNat - 55)
  else none

/-- The license that 32 hexadecimal digits name. -/
def decodeLicenseId (value : String) : Option LicenseId :=
  if value.utf8ByteSize ≠ 32 then none
  else (value.toList.mapM hexNibble).map fun digits =>
    BitVec.ofNat _ (digits.foldl (fun n d => 16 * n + d) 0)

/-- A period, if it is valid. -/
def checkedPeriod (start stop : ℤ) : Option (ℤ × ℤ) :=
  if validPeriod start stop then some (start, stop) else none

/-- The period of a Stripe object: its own fields under two names, or those of the metadata. -/
def periodFields (object : Json) (metadata : Option Json) : Option (ℤ × ℤ) := do
  let start ← (object.timestampAt ["current_period_start"]).or
    ((object.timestampAt ["period_start"]).or
      (metadata.bind (·.timestampAt ["current_period_start"])))
  let stop ← (object.timestampAt ["current_period_end"]).or ((object.timestampAt ["period_end"]).or
      (metadata.bind (·.timestampAt ["current_period_end"])))
  checkedPeriod start stop

/-- The billing period of Paddle. -/
def paddlePeriod (data : Json) : Option (ℤ × ℤ) := do
  let period ← data.valueAt ["current_billing_period"]
  let start ← period.timestampAt ["starts_at"]
  let stop ← period.timestampAt ["ends_at"]
  checkedPeriod start stop

/-- The billing period of Lemon Squeezy. -/
def lemonPeriod (attrs : Json) : Option (ℤ × ℤ) := do
  let start ← attrs.timestampAt ["current_period_start"]
  let stop ← attrs.timestampAt ["current_period_end"]
  checkedPeriod start stop

/-- The name of the billing period, by its length unless the metadata name it. -/
def billingPeriod (metadata : Option Json) (start stop : ℤ) : String :=
  (metadata.bind (·.stringAt ["billing_period"])).getD
    (if 300 * 86400 ≤ signedSub 64 stop start then "annual" else "monthly")

/-- A start event, for the license that the vendor's metadata name. -/
def startedKind (metadata : Option Json) (period : Option (ℤ × ℤ)) : Option BillingEventKind := do
  let text ← metadata.bind (·.stringAt ["copylocker_license_id"])
  let licenseId ← decodeLicenseId text
  let (start, stop) ← period
  some (.started licenseId start stop (billingPeriod metadata start stop))

/-- A paid period. -/
def renewedKind (period : Option (ℤ × ℤ)) : Option BillingEventKind :=
  period.map fun p => .renewed p.1 p.2

/-! ### The event types of the providers -/

/-- The kind of a Stripe event; `some none` for an event type that is ignored. -/
def stripeKind (eventType : String) (object : Json) (metadata : Option Json) :
    Option (Option BillingEventKind) :=
  match eventType with
  | "checkout.session.completed" | "customer.subscription.created" =>
    (startedKind metadata (periodFields object metadata)).map some
  | "invoice.paid" | "invoice.payment_succeeded" =>
    (renewedKind (periodFields object metadata)).map some
  | "invoice.payment_failed" | "invoice.payment_action_required" => some (some .paymentFailed)
  | "customer.subscription.resumed" => some (some .paymentRecovered)
  | "customer.subscription.updated" =>
    if object.boolAt ["cancel_at_period_end"] = some true then some (some .cancelAtPeriodEnd)
    else some (some .paymentRecovered)
  | "customer.subscription.deleted" => some (some .periodEnded)
  | "charge.refunded" => some (some .refundReported)
  | _ => some none

/-- The kind of a Paddle event; `none` inside for one that is ignored. -/
def paddleKind (eventType : String) (data : Json) (custom : Option Json) :
    Option (Option BillingEventKind) :=
  match eventType with
  | "subscription.created" => (startedKind custom (paddlePeriod data)).map some
  | "transaction.completed" => (renewedKind (paddlePeriod data)).map some
  | "subscription.past_due" => some (some .paymentFailed)
  | "subscription.activated" | "subscription.resumed" => some (some .paymentRecovered)
  | "subscription.canceled" => some (some .periodEnded)
  | "transaction.refunded" => some (some .refundReported)
  | _ => some none

/-- The kind of a Lemon Squeezy event. -/
def lemonsqueezyKind (eventType : String) (attrs : Json) (custom : Option Json) :
    Option (Option BillingEventKind) :=
  match eventType with
  | "subscription_created" => (startedKind custom (lemonPeriod attrs)).map some
  | "subscription_payment_success" => (renewedKind (lemonPeriod attrs)).map some
  | "subscription_payment_failed" => some (some .paymentFailed)
  | "subscription_resumed" => some (some .paymentRecovered)
  | "subscription_cancelled" => some (some .cancelAtPeriodEnd)
  | "subscription_expired" => some (some .periodEnded)
  | "subscription_payment_refunded" => some (some .refundReported)
  | _ => some none

/-- The event of a webhook whose kind is known; an ignored one needs no subscription. -/
def newEvent (provider : BillingProvider) (eventId : String) (eventTs : ℤ)
    (externalId : Option String) : Option BillingEventKind → Option (Option BillingEvent)
  | none => some none
  | some kind => externalId.map fun externalId =>
      some { provider, eventId, eventTs, externalId, kind }

/-- `none` is an error, `some none` an event that is ignored. -/
def normalizeStripe (value : Json) : Option (Option BillingEvent) := do
  let eventId ← value.stringAt ["id"]
  let eventTs ← value.timestampAt ["created"]
  let eventType ← value.stringAt ["type"]
  let object ← value.valueAt ["data", "object"]
  let metadata := object.valueAt ["metadata"]
  let externalId := (object.stringAt ["subscription"]).or ((object.stringAt ["subscription_id"]).or
      ((metadata.bind (·.stringAt ["subscription_id"])).or
        (if "customer.subscription.".toList.isPrefixOf eventType.toList then object.stringAt ["id"]
          else none)))
  newEvent .stripe eventId eventTs externalId (← stripeKind eventType object metadata)

/-- A Paddle webhook as a billing event. -/
def normalizePaddle (value : Json) : Option (Option BillingEvent) := do
  let eventId ← value.stringAt ["event_id"]
  let eventTs ← value.timestampAt ["occurred_at"]
  let eventType ← value.stringAt ["event_type"]
  let data ← value.valueAt ["data"]
  let custom := data.valueAt ["custom_data"]
  let externalId := (data.stringAt ["subscription_id"]).or
    (if "subscription.".toList.isPrefixOf eventType.toList then data.stringAt ["id"] else none)
  newEvent .paddle eventId eventTs externalId (← paddleKind eventType data custom)

/-- A Lemon Squeezy webhook as a billing event. -/
def normalizeLemonsqueezy (value : Json) : Option (Option BillingEvent) := do
  let info ← value.valueAt ["meta"]
  let data ← value.valueAt ["data"]
  let attrs ← data.valueAt ["attributes"]
  let custom := info.valueAt ["custom_data"]
  let eventId ← info.stringAt ["webhook_id"]
  let eventTs ← info.timestampAt ["event_created_at"]
  let eventType ← info.stringAt ["event_name"]
  let externalId ← (attrs.stringAt ["subscription_id"]).or (data.stringAt ["id"])
  newEvent .lemonSqueezy eventId eventTs (some externalId)
    (← lemonsqueezyKind eventType attrs custom)

/-- The billing event of a webhook. -/
def normalize (provider : BillingProvider) (value : Json) : Option (Option BillingEvent) :=
  match provider with
  | .stripe => normalizeStripe value
  | .paddle => normalizePaddle value
  | .lemonSqueezy => normalizeLemonsqueezy value

/-- The event that the route puts into the queue. -/
def accept (provider : BillingProvider) (value : Json) : Option BillingEvent :=
  ((normalize provider value).bind id).filter BillingEvent.isValid

end CopyLocker.Worker
