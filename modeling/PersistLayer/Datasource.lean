/-!
# Datasources

The databases that a client can be generated for, and the policy of each: which
modules its client imports, how the client reaches the database and which values
the sample configuration shows.
-/

namespace PersistLayer

/-- The supported databases. -/
inductive Datasource where
  | mysql
  | mssql
  | postgresql
  | h2
  deriving Repr, DecidableEq

/-- How a client reaches the database: by a driver of its own that takes host,
port, user and database, or by a bridge that takes a URL. -/
inductive Access where
  | direct
  | bridged
  deriving Repr, DecidableEq

/-- The values of a connection that the sample configuration shows. -/
inductive ConnectionDefaults where
  | network (host : String) (port : Nat) (user : String)
  | url (url : String)
  deriving Repr, DecidableEq

/-- What is particular to a database. -/
structure Policy where
  /-- The name by which the database is chosen. -/
  identifier : String
  /-- The module that declares the connector's client type. -/
  connectorModule : String
  /-- The module that is imported only for the driver in it. -/
  driverModule : String
  access : Access
  defaults : ConnectionDefaults
  /-- The database lets a connection choose its default schema. -/
  hasCustomSchema : Bool
  /-- The class behind the external query functions, without its package. -/
  processor : String
  /-- The constant that describes the SQL dialect. -/
  sqlSpecifics : String
  deriving Repr, DecidableEq

namespace Policy

/-- The text behind the last full stop of a dotted name. -/
def lastSegment (name : String) : String :=
  String.ofList ((name.toList.splitOn '.').getLast?.getD [])

/-- The name that the connector module is referred to by, such as `jdbc`. -/
def connectorPrefix (policy : Policy) : String := lastSegment policy.connectorModule

/-- The connector's client type. -/
def clientType (policy : Policy) : String := policy.connectorPrefix ++ ":Client"

/-- The class behind the external query functions. -/
def processorClass (policy : Policy) : String :=
  "io.ballerina.stdlib.persist.sql.datastore." ++ policy.processor

end Policy

namespace Datasource

/-- All databases, in the order in which they are listed to the user. -/
def all : List Datasource := [mysql, mssql, postgresql, h2]

/-- The policy of a database. -/
def policy : Datasource → Policy
  | mysql =>
    { identifier := "mysql"
      connectorModule := "mysql"
      driverModule := "mysql.driver"
      access := .direct
      defaults := .network "localhost" 3306 "root"
      hasCustomSchema := false
      processor := "MySQLProcessor"
      sqlSpecifics := "MYSQL_SPECIFICS" }
  | mssql =>
    { identifier := "mssql"
      connectorModule := "mssql"
      driverModule := "mssql.driver"
      access := .direct
      defaults := .network "localhost" 1433 "sa"
      hasCustomSchema := true
      processor := "MSSQLProcessor"
      sqlSpecifics := "MSSQL_SPECIFICS" }
  | postgresql =>
    { identifier := "postgresql"
      connectorModule := "postgresql"
      driverModule := "postgresql.driver"
      access := .direct
      defaults := .network "localhost" 5432 "postgres"
      hasCustomSchema := true
      processor := "PostgreSQLProcessor"
      sqlSpecifics := "POSTGRESQL_SPECIFICS" }
  | h2 =>
    { identifier := "h2"
      connectorModule := "java.jdbc"
      driverModule := "h2.driver"
      access := .bridged
      defaults := .url ""
      hasCustomSchema := false
      processor := "H2Processor"
      sqlSpecifics := "H2_SPECIFICS" }

/-- The name of a database. -/
def identifier (datasource : Datasource) : String := datasource.policy.identifier

/-- The database of a given name. -/
def ofIdentifier? (identifier : String) : Option Datasource :=
  all.find? fun datasource => datasource.identifier == identifier

end Datasource

end PersistLayer
