/-
# Proofs.Query.Reading -- the pairs of a request read one by one

A request can be read in one pass.  The reading keeps the first limit and the first offset
that came, puts order terms and names behind the earlier ones, and sorts all other pairs
by their keys (`Reading.step`).  What each of its parts holds after a run of pairs depends
on the values of one key, or of all filter keys, and on nothing else
(`Reading.foldl_step`), so the parameters of a request are those of its reading
(`ofPairs_eq_reading`).
-/
import CatalogListing.Proofs.Query.Parameters

namespace CatalogListing.Parameters

set_option autoImplicit false

/-- What has been read of a request. -/
structure Reading where
  limit : Option Text := none
  offset : Option Text := none
  order : List OrderTerm := []
  preload : List Text := []
  filters : Keyed (List Text) := []

namespace Reading

/-- One more pair. -/
def step (reading : Reading) (pair : Pair) : Reading :=
  if pair.1 = limitKey then { reading with limit := reading.limit.or (some pair.2) }
  else if pair.1 = offsetKey then { reading with offset := reading.offset.or (some pair.2) }
  else if pair.1 = orderKey then
    { reading with order := reading.order ++ (OrderTerm.ofText? pair.2).toList }
  else if pair.1 = populateKey then
    { reading with preload := (NameList.ofText pair.2).foldl withName reading.preload }
  else { reading with filters := withFilter reading.filters pair }

/-- The parameters that a reading comes to. -/
def parameters (reading : Reading) (bounds : PageBounds) : Parameters where
  limit := bounds.limit reading.limit
  offset := PageBounds.offset reading.offset
  order := reading.order
  passthrough := {}
  preload := reading.preload
  custom := []
  filters := reading.filters

/-- The reading that has read pairs more, told from the values of their keys. -/
def behind (reading : Reading) (pairs : List Pair) : Reading where
  limit := reading.limit.or (valuesOf limitKey pairs).head?
  offset := reading.offset.or (valuesOf offsetKey pairs).head?
  order := reading.order ++ (valuesOf orderKey pairs).filterMap OrderTerm.ofText?
  preload := ((valuesOf populateKey pairs).flatMap NameList.ofText).foldl withName reading.preload
  filters := (pairs.filter fun pair => !reservedKeys.contains pair.1).foldl withFilter
    reading.filters

theorem behind_nil (reading : Reading) : reading.behind [] = reading := by
  simp [behind, valuesOf]

/-- The reserved keys are four different ones. -/
theorem reserved_apart :
    (limitKey ≠ offsetKey ∧ limitKey ≠ orderKey ∧ limitKey ≠ populateKey) ∧
      (offsetKey ≠ orderKey ∧ offsetKey ≠ populateKey) ∧ orderKey ≠ populateKey := by
  decide

/-- **One pair changes one part of the reading**, by its value for a reserved key and as a
filter for any other. -/
theorem behind_cons (reading : Reading) (pair : Pair) (pairs : List Pair) :
    reading.behind (pair :: pairs) = (reading.step pair).behind pairs := by
  obtain ⟨key, value⟩ := pair
  obtain ⟨⟨limitOffset, limitOrder, limitPopulate⟩, ⟨offsetOrder, offsetPopulate⟩, orderPopulate⟩ :=
    reserved_apart
  have filtered : ((key, value) :: pairs).filter (fun pair => !reservedKeys.contains pair.1) =
      if key ∈ reservedKeys then pairs.filter fun pair => !reservedKeys.contains pair.1
      else (key, value) :: pairs.filter fun pair => !reservedKeys.contains pair.1 := by
    by_cases reserved : key ∈ reservedKeys <;> simp [reserved]
  simp only [behind, filtered, valuesOf_cons]
  by_cases limit : key = limitKey
  · subst limit
    simp [step, reservedKeys, limitOffset, limitOrder, limitPopulate]
  by_cases offset : key = offsetKey
  · subst offset
    simp [step, reservedKeys, limit, offsetOrder, offsetPopulate]
  by_cases order : key = orderKey
  · subst order
    cases term : OrderTerm.ofText? value <;>
      simp [step, reservedKeys, limit, offset, orderPopulate, term]
  by_cases populate : key = populateKey
  · subst populate
    simp [step, reservedKeys, limit, offset, order]
  · simp [step, reservedKeys, limit, offset, order, populate]

/-- What a run of pairs leaves is told from the values of their keys. -/
theorem foldl_step (pairs : List Pair) (reading : Reading) :
    pairs.foldl step reading = reading.behind pairs := by
  induction pairs generalizing reading with
  | nil => exact reading.behind_nil.symm
  | cons pair rest ih => rw [List.foldl_cons, ih, behind_cons]

end Reading

/-- **Reading the pairs one by one comes to the parameters of the request.** -/
theorem ofPairs_eq_reading (pairs : List Pair) (bounds : PageBounds) :
    ofPairs pairs bounds = (pairs.foldl Reading.step {}).parameters bounds := by
  rw [Reading.foldl_step]
  rfl

end CatalogListing.Parameters
