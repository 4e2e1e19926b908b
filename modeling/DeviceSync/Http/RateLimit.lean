import DeviceSync.Http.Request
import DeviceSync.Service.Basic
import Std.Data.HashMap

/-!
# Rate Limits

Every caller has a bucket of tokens, takes one for each request and is refused when there is none.
Tokens come back at a steady rate until the bucket is full.

A caller is the device of a valid access credential. Without one it is the address that the request
came from, so forged credentials do not buy new buckets; callers at no known address share one.
-/

namespace DeviceSync.Http

/-- Who is charged for a request. -/
inductive RateKey where
  | device (name : String)
  | peer (a : Address)
  | anonymous
deriving DecidableEq, Hashable

/-- The caller behind a request. -/
def rateKey (issuer : Credential.Issuer) (r : Request) (now : Instant) : RateKey :=
  let claims := do
    let value ← r.header? "authorization"
    let rest ← Text.afterLead "Bearer ".toList value.toList
    (issuer.validate (Text.trimmed (String.ofList rest)) .access now).toOption
  match claims, r.peer with
  | some c, _ => .device c.device
  | none, some a => .peer a
  | none, none => .anonymous

/-- Tokens are counted in parts of which a thousand million make one, so that a rate of one token a
second is one part a nanosecond. -/
def partsPerToken : Nat := 1000000000

structure Bucket where
  parts : Nat
  /-- When the bucket was last refilled. -/
  filled : Instant
deriving DecidableEq

/-- The nanoseconds from one instant to another; none if the other is earlier. -/
def nanosBetween (earlier later : Instant) : Nat :=
  (1000000000 * (later.seconds - earlier.seconds) + ((later.nanos : Int) - earlier.nanos)).toNat

structure RateLimiter where
  /-- How many tokens a full bucket holds. -/
  capacity : Nat
  /-- How many tokens a second come back. -/
  rate : Nat
  buckets : Std.HashMap RateKey Bucket

namespace RateLimiter

/-- How many buckets are kept before the full ones are given up. -/
def maxBuckets : Nat := 10000

def new (capacity rate : Nat) : RateLimiter :=
  ⟨capacity, rate, ∅⟩

def fullParts (l : RateLimiter) : Nat :=
  l.capacity * partsPerToken

def fullBucket (l : RateLimiter) (now : Instant) : Bucket :=
  ⟨l.fullParts, now⟩

def refill (l : RateLimiter) (b : Bucket) (now : Instant) : Bucket :=
  ⟨min (b.parts + nanosBetween b.filled now * l.rate) l.fullParts, now⟩

/-- Give up the buckets that are full by now: a new one would be the same. -/
def prune (l : RateLimiter) (now : Instant) : RateLimiter :=
  { l with buckets :=
      (l.buckets.map fun _ b ↦ l.refill b now).filter fun _ b ↦ b.parts < l.fullParts }

/-- Make room for a caller that is not known yet. -/
def makeRoom (l : RateLimiter) (key : RateKey) (now : Instant) : RateLimiter :=
  if maxBuckets ≤ l.buckets.size ∧ ¬l.buckets.contains key then l.prune now else l

/-- The bucket of a caller as it is now. -/
def bucket (l : RateLimiter) (key : RateKey) (now : Instant) : Bucket :=
  l.refill (l.buckets[key]?.getD (l.fullBucket now)) now

/-- Charge a caller one token. The second part tells whether there was one. -/
def acquire (l : RateLimiter) (key : RateKey) (now : Instant) : RateLimiter × Bool :=
  let l := l.makeRoom key now
  let b := l.bucket key now
  if partsPerToken ≤ b.parts then
    ({ l with buckets := l.buckets.insert key ⟨b.parts - partsPerToken, now⟩ }, true)
  else ({ l with buckets := l.buckets.insert key b }, false)

end RateLimiter

end DeviceSync.Http
