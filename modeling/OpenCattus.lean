import OpenCattus.AnswerFile.InventoryValues
import OpenCattus.AnswerFile.NodeSections
import OpenCattus.Cluster.FillRun
import OpenCattus.Cluster.Numbers
import OpenCattus.Cluster.Presence
import OpenCattus.Cluster.Topology
import OpenCattus.Functions.DryRun
import OpenCattus.Functions.Lines
import OpenCattus.MailSystem.Credentials
import OpenCattus.Network.AddressText
import OpenCattus.Network.RouteTable
import OpenCattus.OperatingSystem.VersionText
import OpenCattus.Provisioning.DirectIpmi
import OpenCattus.Provisioning.DynamicRange
import OpenCattus.Provisioning.Image
import OpenCattus.Provisioning.ImageRepositories
import OpenCattus.Provisioning.NodeCommands
import OpenCattus.Provisioning.RootImage
import OpenCattus.Questionnaire.AddressPlan
import OpenCattus.Questionnaire.HostNames
import OpenCattus.Questionnaire.ImageNames
import OpenCattus.Questionnaire.Installable
import OpenCattus.Questionnaire.Interfaces
import OpenCattus.Questionnaire.Lists
import OpenCattus.Questionnaire.Locales
import OpenCattus.Questionnaire.Network
import OpenCattus.Questionnaire.NetworkChecks
import OpenCattus.Questionnaire.Sessions
import OpenCattus.Questionnaire.Suggestions
import OpenCattus.Repositories.Configuration
import OpenCattus.Repositories.DocaStream
import OpenCattus.Repositories.Generation
import OpenCattus.Repositories.Initialization
import OpenCattus.Repositories.Switching
import OpenCattus.Roles.NetworkSetup
import OpenCattus.Roles.SlurmText
import OpenCattus.Services.Checksum
import OpenCattus.Services.DiskImage
import OpenCattus.Services.NFS
import OpenCattus.Services.Runner
import OpenCattus.Session.Agreement
import OpenCattus.Session.Install
