import Snekql.PoolSafety
import Snekql.MigrationLinearity
import Snekql.NestedRefinement
import Snekql.ReleaseSafety
import Snekql.SqliteSegments
import Snekql.MariadbResumption
import Snekql.MariadbPoolSafety
import Snekql.AssignmentOrder
import Snekql.CheckNormalForms
import Snekql.SqlInlining
import Snekql.SchemaReadBack
import Snekql.LiteralDefaults
import Snekql.CopyValidation
import Snekql.FixedDecimals
import Snekql.Durations
import Snekql.ZonedDatetimes
import Snekql.TableSplitting
import Snekql.JoinedRows
