import ColumnarSql.Buckets
import ColumnarSql.Calendar.Date
import ColumnarSql.Calendar.Moment
import ColumnarSql.Calendar.Part
import ColumnarSql.Calendar.Reading
import ColumnarSql.Calendar.Text
import ColumnarSql.Catalog
import ColumnarSql.Column
import ColumnarSql.DataType.Basic
import ColumnarSql.DataType.Coercion
import ColumnarSql.Error
import ColumnarSql.Eval.Construct
import ColumnarSql.Eval.Expr
import ColumnarSql.Eval.Operator
import ColumnarSql.Eval.Reduce
import ColumnarSql.Eval.RowFunction
import ColumnarSql.Eval.Window
import ColumnarSql.Evaluated
import ColumnarSql.Expr.Basic
import ColumnarSql.Expr.Build
import ColumnarSql.Expr.Marking
import ColumnarSql.Expr.Text
import ColumnarSql.Grouping
import ColumnarSql.Join
import ColumnarSql.Number.Binary64
import ColumnarSql.Number.Integer
import ColumnarSql.Number.Layout
import ColumnarSql.Number.Reading
import ColumnarSql.Number.Shortest
import ColumnarSql.Pattern.CharSet
import ColumnarSql.Pattern.Like
import ColumnarSql.Pattern.Property
import ColumnarSql.Pattern.Property.Binary
import ColumnarSql.Pattern.Property.Break
import ColumnarSql.Pattern.Regex.Automaton
import ColumnarSql.Pattern.Regex.Basic
import ColumnarSql.Pattern.Regex.Bracket
import ColumnarSql.Pattern.Regex.Match
import ColumnarSql.Pattern.Regex.Parse
import ColumnarSql.Pattern.Regex.Reading
import ColumnarSql.Proofs.Acceptance
import ColumnarSql.Proofs.AddedField
import ColumnarSql.Proofs.AlikeResults
import ColumnarSql.Proofs.CallPlaces
import ColumnarSql.Proofs.Coercion
import ColumnarSql.Proofs.CoercionOrder
import ColumnarSql.Proofs.ColumnKeys
import ColumnarSql.Proofs.CorrelatedRows
import ColumnarSql.Proofs.DataIndependence
import ColumnarSql.Proofs.DistinctValues
import ColumnarSql.Proofs.EnclosedSelect
import ColumnarSql.Proofs.EnclosingFrames
import ColumnarSql.Proofs.EqualValues
import ColumnarSql.Proofs.EvaluationTypes
import ColumnarSql.Proofs.FilteredProduct
import ColumnarSql.Proofs.GroupKeys
import ColumnarSql.Proofs.GroupPosition
import ColumnarSql.Proofs.GroupReduction
import ColumnarSql.Proofs.GroupedEvaluation
import ColumnarSql.Proofs.GroupedFields
import ColumnarSql.Proofs.Hashing
import ColumnarSql.Proofs.HavingFilter
import ColumnarSql.Proofs.HavingScope
import ColumnarSql.Proofs.IntegerExpressions
import ColumnarSql.Proofs.IntegerSums
import ColumnarSql.Proofs.JoinRows
import ColumnarSql.Proofs.Kernel
import ColumnarSql.Proofs.KernelTypes
import ColumnarSql.Proofs.KeyAgreement
import ColumnarSql.Proofs.KeyClasses
import ColumnarSql.Proofs.LikePatterns
import ColumnarSql.Proofs.Marking
import ColumnarSql.Proofs.Masks
import ColumnarSql.Proofs.NestedConditionals
import ColumnarSql.Proofs.OrderFreeReductions
import ColumnarSql.Proofs.OrderTransitivity
import ColumnarSql.Proofs.OrderedPartition
import ColumnarSql.Proofs.OtherRows
import ColumnarSql.Proofs.Partition
import ColumnarSql.Proofs.Parts
import ColumnarSql.Proofs.PickedFrames
import ColumnarSql.Proofs.Picking
import ColumnarSql.Proofs.Planning
import ColumnarSql.Proofs.QualifiedNames
import ColumnarSql.Proofs.QueryTypes
import ColumnarSql.Proofs.RectangularTables
import ColumnarSql.Proofs.ReductionTypes
import ColumnarSql.Proofs.ResultShapes
import ColumnarSql.Proofs.Rounding
import ColumnarSql.Proofs.RowByRow
import ColumnarSql.Proofs.RowNumbers
import ColumnarSql.Proofs.SameSchema
import ColumnarSql.Proofs.SemiJoin
import ColumnarSql.Proofs.StableSort
import ColumnarSql.Proofs.StarSelection
import ColumnarSql.Proofs.Success
import ColumnarSql.Proofs.Unambiguous
import ColumnarSql.Proofs.UnionAssociativity
import ColumnarSql.Proofs.UnionDistributivity
import ColumnarSql.Proofs.UnsupportedFeatures
import ColumnarSql.Proofs.UsingJoin
import ColumnarSql.Proofs.ValueOrder
import ColumnarSql.Proofs.WherePartition
import ColumnarSql.Proofs.WidenedComparison
import ColumnarSql.Proofs.Widening
import ColumnarSql.Proofs.WindowGroups
import ColumnarSql.Proofs.WindowRows
import ColumnarSql.Query.Basic
import ColumnarSql.Query.Build
import ColumnarSql.Query.Reference
import ColumnarSql.QueryPlan
import ColumnarSql.Scope.Basic
import ColumnarSql.SelectPlan
import ColumnarSql.Sorting
import ColumnarSql.SqlFunction
import ColumnarSql.Table
import ColumnarSql.Text.AgeTable
import ColumnarSql.Text.Blank
import ColumnarSql.Text.Case
import ColumnarSql.Text.CaseTable
import ColumnarSql.Text.Category
import ColumnarSql.Text.CodeRun
import ColumnarSql.Text.Fold
import ColumnarSql.Text.LetterTable
import ColumnarSql.Text.Path
import ColumnarSql.Text.Printable
import ColumnarSql.Text.PropertyTable
import ColumnarSql.Text.Quoted
import ColumnarSql.Text.ScriptTable
import ColumnarSql.Text.SignTable
import ColumnarSql.Text.Utf8
import ColumnarSql.Text.Utf8Range
import ColumnarSql.Value.Basic
import ColumnarSql.Value.Cast
import ColumnarSql.Value.Digest
import ColumnarSql.Value.Order
import ColumnarSql.Value.Text
import ColumnarSql.Proofs.DecodedText
import ColumnarSql.Proofs.WrittenMoments
import ColumnarSql.Proofs.TextCasts
import ColumnarSql.Proofs.CanonicalPaths
import ColumnarSql.Proofs.LiteralTypes
import ColumnarSql.Proofs.TypedArrays
import ColumnarSql.Proofs.HashKeys
import ColumnarSql.Proofs.ScopeChains
import ColumnarSql.Proofs.ReadRows
import ColumnarSql.Proofs.SoundFrames
import ColumnarSql.Proofs.EvaluationTasks
import ColumnarSql.Proofs.IndexBounds
import ColumnarSql.Proofs.CatalogGrowth
import ColumnarSql.Proofs.FailedGrouping
import ColumnarSql.Proofs.TableSlices
import ColumnarSql.Proofs.SundayWeeks
import ColumnarSql.Proofs.RowMajor
import ColumnarSql.Proofs.UniformTables
import ColumnarSql.Proofs.Traversal
import ColumnarSql.Proofs.InsertedMarks
import ColumnarSql.Proofs.Timeless
