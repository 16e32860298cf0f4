import Mathlib.Data.List.Sort
import KiTicket.Server

/-! `lock.service.ts`: seat locks in Redis, taken all together or not at all. -/
namespace KiTicket.LockService

/-- `lock:event:${eventId}:seat:${seatId}` -/
def key (eventId seatId : Text) : Text :=
  ['l', 'o', 'c', 'k', ':', 'e', 'v', 'e', 'n', 't', ':'] ++ eventId ++
    [':', 's', 'e', 'a', 't', ':'] ++ seatId

/-- The order `sort()` puts strings in: by their characters. -/
def inOrder (a b : Text) : Bool := !b.lex a fun x y => x.toNat < y.toNat

/-- `[...new Set(seatIds)].sort()` -/
def normalized (seatIds : List Text) : List Text :=
  seatIds.dedup.insertionSort (inOrder · ·)

/-- `ACQUIRE_SCRIPT` -/
def acquireScript (store : KeyStore Text Text) (keys : List Text) (owner : Text) (ttlMs : Nat) :
    KeyStore Text Text × Nat :=
  if keys.any fun key => (store.get key).isSome then (store, 0)
  else (store.setAll keys ttlMs owner, 1)

/-- `RELEASE_SCRIPT` -/
def releaseScript (store : KeyStore Text Text) (keys : List Text) (owner : Text) :
    KeyStore Text Text × Nat :=
  store.delOwned keys owner

def acquire (cfg : Config) (store : KeyStore Text Text) (eventId : Text) (seatIds : List Text)
    (owner : Text) : Except Failure (KeyStore Text Text) :=
  if (normalized seatIds).length ≠ seatIds.length then
    .error (.conflict "Duplicate seats are not allowed")
  else
    let keys := (normalized seatIds).map (key eventId)
    let (store', result) := acquireScript store keys owner (cfg.lockTtlSeconds * 1000)
    if result ≠ 1 then .error (.conflict "At least one selected seat is currently locked")
    else .ok store'

def release (store : KeyStore Text Text) (eventId : Text) (seatIds : List Text) (owner : Text) :
    KeyStore Text Text × Nat :=
  if seatIds = [] then (store, 0)
  else releaseScript store ((normalized seatIds).map (key eventId)) owner

end KiTicket.LockService
