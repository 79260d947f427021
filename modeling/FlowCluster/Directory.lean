import FlowCluster.Exchange

/-! # Directories in memory

A directory that answers from a list of routes, by the whole address of a request. It sees every request as it
is, and it can be told to fail, and to report something as it does. -/

namespace FlowCluster

/-- What is at an address: a failure to hand over, with what is reported first, or an answer. An answer may give
another address as its own. -/
inductive Page
  | failure (failure : CallFailure) (events : List Event)
  | answer (status : UInt16) (body : Option Bytes) (url : Option String)
  deriving DecidableEq, Repr

/-- Pages by address. The first page of an address counts. -/
structure Directory where
  routes : List (String × Page)

namespace Directory

/-- The answer at an address without a page. -/
def missing (url : String) : Response := ⟨url, 404, some (Text.Utf8.encode "no route")⟩

/-- What is at an address, and what is reported when it is asked for. -/
def answer (d : Directory) (url : String) : Except CallFailure Response × List Event :=
  match d.routes.find? fun r => r.1 == url with
  | some (_, .failure e events) => (.error e, events)
  | some (_, .answer status body own) => (.ok ⟨own.getD url, status, body⟩, [])
  | none => (.ok (missing url), [])

/-- A directory as a transport. -/
def transport (d : Directory) : Transport Request where
  fetch r := ⟨(d.answer r.url).1, [r], (d.answer r.url).2⟩

/-- Puts one page at an address in place of all that were there. -/
def publish (d : Directory) (url : String) (page : Page) : Directory :=
  ⟨(d.routes.filter fun r => r.1 != url) ++ [(url, page)]⟩

end Directory
end FlowCluster
