import PersistLayer.Client.Function

/-!
# Flavours of client

All clients are put together alike.  They differ in the name of the class, in the
policy of the database behind them and in `init`.
-/

namespace PersistLayer.Client

open Syntax

/-- What is particular to a kind of client.  `init` can follow a policy of its
own. -/
structure Flavour where
  className : String
  policy : Policy
  initPolicy : Policy
  initParams : List Param
  deriving Repr

/-- The client of a database, whose connection is configured. -/
def Flavour.database (datasource : Datasource) (className : String) : Flavour where
  className
  policy := datasource.policy
  initPolicy := datasource.policy
  initParams := []

/-- The client of a database with the policy of another kind of database for all
but `init`. -/
def Flavour.custom (policy : Policy) (datasource : Datasource) (className : String) : Flavour :=
  { Flavour.database datasource className with policy }

/-- The name of the class of the test client. -/
def testClientName : String := "H2Client"

/-- The client of a database in memory, whose connection is passed to `init`. -/
def Flavour.test : Flavour where
  className := testClientName
  policy := Datasource.h2.policy
  initPolicy := Datasource.h2.policy
  initParams :=
    [⟨.plain "string", "url", none⟩,
      ⟨.optional (.plain "string"), "user", some "()"⟩,
      ⟨.optional (.plain "string"), "password", some "()"⟩,
      ⟨.optional (.qualified "jdbc" "Options"), "connectionOptions", some "\x7b\x7d"⟩]

end PersistLayer.Client
