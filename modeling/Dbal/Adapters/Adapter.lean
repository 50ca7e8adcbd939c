/-
# Adapters

The interface `Adapter` of `include/dbal/adapters/adapter.hpp` over the states `σ` of a
store.  A call returns a `Result`, or throws; either way it may have changed the store.

`Client` of `src/client_entity_ops.cpp` hands its calls through to the adapter, so the
handlers call the adapter here.
-/

import Dbal.Adapters.SchemaLoader
import Dbal.Core.Query
import Dbal.Store.Transaction

namespace Dbal

/-- What a call or a handler throws. -/
inductive Thrown where
  | json (error : JsonError)
  | outOfRange (pos size : Nat)
  | adapter (what : String)
  deriving DecidableEq, Repr

/-- `what()`, of a JSON error as far as its number. -/
def Thrown.what : Thrown → String
  | .json .typeError302 => "[json.exception.type_error.302]"
  | .json .typeError305 => "[json.exception.type_error.305]"
  | .json .typeError306 => "[json.exception.type_error.306]"
  | .json .logicError => "Json::LogicError"
  | .outOfRange pos size => "basic_string::substr: __pos (which is " ++ toString pos ++
      ") > this->size() (which is " ++ toString size ++ ")"
  | .adapter what => what

/-- `ListResult<Json>`. -/
structure ListResult where
  items : List Json
  total : Int
  page : Int
  limit : Int
  deriving Repr

/-- `Adapter`. -/
structure Adapter (σ : Type) where
  create : String → Json → Act Thrown σ (Result Json)
  read : String → String → Act Thrown σ (Result Json)
  update : String → String → Json → Act Thrown σ (Result Json)
  remove : String → String → Act Thrown σ (Result Bool)
  list : String → ListOptions → Act Thrown σ (Result ListResult)
  search : String → String → Int → Act Thrown σ (Result ListResult)
  createMany : String → List Json → Act Thrown σ (Result Int)
  updateMany : String → Json → Json → Act Thrown σ (Result Int)
  deleteMany : String → Json → Act Thrown σ (Result Int)
  upsert : String → String → Json → Json → Json → Act Thrown σ (Result Json)
  getEntitySchema : String → Result Adapters.EntitySchema
  beginTransaction : Act Thrown σ (Result Bool)
  commitTransaction : Act Thrown σ (Result Bool)
  rollbackTransaction : Act Thrown σ (Result Bool)

/-- The transaction operations of an adapter. -/
def Adapter.tx {σ : Type} (A : Adapter σ) : Tx Thrown σ Error where
  begin := A.beginTransaction
  commit := A.commitTransaction
  rollback := A.rollbackTransaction

@[simp] theorem Adapter.tx_begin {σ : Type} (A : Adapter σ) : A.tx.begin = A.beginTransaction := rfl

@[simp] theorem Adapter.tx_commit {σ : Type} (A : Adapter σ) : A.tx.commit = A.commitTransaction := rfl

@[simp] theorem Adapter.tx_rollback {σ : Type} (A : Adapter σ) :
    A.tx.rollback = A.rollbackTransaction := rfl

end Dbal
